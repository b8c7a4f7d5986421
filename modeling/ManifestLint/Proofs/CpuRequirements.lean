import Mathlib
import ManifestLint.Proofs.PatternRules

/-! # CPU requirements

The CPU requirements template flags containers whose CPU requests, limits or both lie within a
range of thousandths of a core: at least a lower bound and, when one is given, at most an upper
bound. Its requirement type says which are looked at: `request`, `limit`, or `any` for both.

The rule walks the containers of the object's pod template, init containers last, and for each
container looks at its requests and then at its limits. The quantity looked at is the `cpu` entry,
or zero when the container has no resources or no such entry (`Container.cpuQuantity`). A quantity
that does not read as a number of thousandths is reported as invalid; one that reads within the
range is reported; any other is passed. How a quantity reads (`Cpu.millis?`) is not looked into
here.

The main statement is `cpuRequirements_reports_containers`.
-/

namespace ManifestLint

/-- The CPU quantity of a container's requests, or of its limits: the `cpu` entry, zero when the
container has no resources or when they have no `cpu` entry. -/
def Container.cpuQuantity (c : Container) (requests : Bool) : String :=
  (c.resources.map fun r => ((if requests then r.requests else r.limits).get? "cpu").getD "0").getD "0"

theorem inRange_iff (value lower : Int) (upper : Option Int) :
    inRange value lower upper = true ↔ lower ≤ value ∧ ∀ u ∈ upper, value ≤ u := by
  cases upper <;> simp [inRange]

section Messages

variable (c : Container) (requests : Bool) (lower : Int) (upper : Option Int)

theorem cpuQuantity_eq :
    (c.resources.bind fun r => (if requests then r.requests else r.limits).get? "cpu").getD "0" =
      c.cpuQuantity requests := by
  unfold Container.cpuQuantity
  cases c.resources <;> rfl

theorem cpuMessages_of_invalid (h : Cpu.millis? (c.cpuQuantity requests) = none) :
    cpuMessages c requests lower upper =
      ["container " ++ Text.quote c.name ++ " has invalid cpu " ++
        (if requests then "request" else "limit") ++ " " ++ Text.quote (c.cpuQuantity requests)] := by
  simp only [cpuMessages, cpuQuantity_eq, h]

theorem cpuMessages_of_mem_range {m : Int} (h : Cpu.millis? (c.cpuQuantity requests) = some m)
    (hlower : lower ≤ m) (hupper : ∀ u ∈ upper, m ≤ u) :
    cpuMessages c requests lower upper =
      ["container " ++ Text.quote c.name ++ " has cpu " ++
        (if requests then "request" else "limit") ++ " " ++ c.cpuQuantity requests] := by
  have hin : inRange m lower upper = true := (inRange_iff m lower upper).2 ⟨hlower, hupper⟩
  simp only [cpuMessages, cpuQuantity_eq, h, hin, if_true]

theorem cpuMessages_of_not_mem_range {m : Int} (h : Cpu.millis? (c.cpuQuantity requests) = some m)
    (hout : ¬ (lower ≤ m ∧ ∀ u ∈ upper, m ≤ u)) : cpuMessages c requests lower upper = [] := by
  have hin : inRange m lower upper = false := by
    rw [← Bool.not_eq_true, inRange_iff]
    exact hout
  simp only [cpuMessages, cpuQuantity_eq, h, hin, Bool.false_eq_true, if_false]

end Messages

theorem Template.instantiate_cpuRequirements (t : String) (lower : Int) (upper : Option Int) :
    cpuRequirements.instantiate (.cpuRequirements t lower upper) =
      .ok (.cpuRequirements (t == "request" || t == "any") (t == "limit" || t == "any") lower upper) :=
  rfl

theorem Rule.check_cpuRequirements (requests limits : Bool) (lower : Int) (upper : Option Int)
    (ctx : Context) (o : Object) :
    (cpuRequirements requests limits lower upper).check ctx o = o.containers.flatMap fun c =>
      (if requests then cpuMessages c true lower upper else []) ++
        (if limits then cpuMessages c false lower upper else []) := by
  simp only [check, perContainer, Object.podSpec?, Object.containers]
  cases o.template? <;> rfl

/-- The CPU requirements template, for any requirement type and bounds, gives a rule that walks the
containers of the object's pod template, init containers last, and none for an object without one.
For each container it reports on the requests when the type is `request` or `any`, then on the
limits when the type is `limit` or `any`. On each, with the `cpu` quantity or zero when there is
none: a quantity that does not read gives one report of an invalid quantity; one that reads within
the bounds, at least the lower one and at most the upper one if there is one, gives one report;
any other gives none. -/
theorem cpuRequirements_reports_containers (t : String) (lower : Int) (upper : Option Int) :
    ∃ r, Template.cpuRequirements.instantiate (.cpuRequirements t lower upper) = .ok r ∧
      (∀ ctx o, r.check ctx o = o.containers.flatMap fun c =>
        (if t = "request" ∨ t = "any" then cpuMessages c true lower upper else []) ++
          (if t = "limit" ∨ t = "any" then cpuMessages c false lower upper else [])) ∧
      ∀ c requests,
        (Cpu.millis? (c.cpuQuantity requests) = none →
          cpuMessages c requests lower upper =
            ["container " ++ Text.quote c.name ++ " has invalid cpu " ++
              (if requests then "request" else "limit") ++ " " ++
              Text.quote (c.cpuQuantity requests)]) ∧
        (∀ m, Cpu.millis? (c.cpuQuantity requests) = some m → lower ≤ m → (∀ u ∈ upper, m ≤ u) →
          cpuMessages c requests lower upper =
            ["container " ++ Text.quote c.name ++ " has cpu " ++
              (if requests then "request" else "limit") ++ " " ++ c.cpuQuantity requests]) ∧
        (∀ m, Cpu.millis? (c.cpuQuantity requests) = some m →
          ¬ (lower ≤ m ∧ ∀ u ∈ upper, m ≤ u) → cpuMessages c requests lower upper = []) := by
  refine ⟨_, Template.instantiate_cpuRequirements t lower upper, fun ctx o => ?_,
    fun c requests => ⟨cpuMessages_of_invalid c requests lower upper,
      fun m h => cpuMessages_of_mem_range c requests lower upper h,
      fun m h => cpuMessages_of_not_mem_range c requests lower upper h⟩⟩
  rw [Rule.check_cpuRequirements]
  have hflag : ∀ a b : String, ((t == a || t == b) = true) = (t = a ∨ t = b) := by
    simp
  simp only [hflag]

end ManifestLint
