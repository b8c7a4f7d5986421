/-! # Sorted text maps

Labels, annotations, selectors and resource quantities are maps from texts to texts. A map is a
list of entries sorted by key, each key once, so that its entries come out in key order (code point
order, which is the order of the texts' UTF-8 bytes); the order is part of the type, kept by
writing and erasing keys. Writing a key that is present replaces its value.
-/

namespace ManifestLint

namespace Dict

/-- Writes an entry into a list sorted by key, replacing the entry of the same key. -/
def insertEntry (k v : String) : List (String × String) → List (String × String)
  | [] => [(k, v)]
  | (k', v') :: rest =>
    if k < k' then (k, v) :: (k', v') :: rest
    else if k = k' then (k, v) :: rest
    else (k', v') :: insertEntry k v rest

theorem lt_of_mem_insertEntry {b k v : String} {es : List (String × String)} (hk : b < k)
    (hes : ∀ e ∈ es, b < e.1) : ∀ e ∈ insertEntry k v es, b < e.1 := by
  induction es with
  | nil => exact List.forall_mem_singleton.2 hk
  | cons e rest ih =>
    obtain ⟨k', v'⟩ := e
    obtain ⟨hhead, hrest⟩ := List.forall_mem_cons.1 hes
    unfold insertEntry
    split
    · exact List.forall_mem_cons.2 ⟨hk, hes⟩
    · split
      · exact List.forall_mem_cons.2 ⟨hk, hrest⟩
      · exact List.forall_mem_cons.2 ⟨hhead, ih hrest⟩

theorem pairwise_insertEntry (k v : String) {es : List (String × String)}
    (h : es.Pairwise (·.1 < ·.1)) : (insertEntry k v es).Pairwise (·.1 < ·.1) := by
  induction es with
  | nil => simp [insertEntry]
  | cons e rest ih =>
    obtain ⟨k', v'⟩ := e
    obtain ⟨hhead, htail⟩ := List.pairwise_cons.1 h
    unfold insertEntry
    split
    · next hlt =>
      refine List.pairwise_cons.2 ⟨?_, h⟩
      rintro e (_ | ⟨_, he⟩)
      · exact hlt
      · exact String.lt_trans hlt (hhead e he)
    · split
      · next heq =>
        subst heq
        exact List.pairwise_cons.2 ⟨hhead, htail⟩
      · next hlt heq =>
        have hgt : k' < k :=
          String.not_le.1 fun hle => heq (String.le_antisymm (String.not_lt.1 hlt) hle).symm
        exact List.pairwise_cons.2 ⟨lt_of_mem_insertEntry hgt hhead, ih htail⟩

end Dict

/-- A map from texts to texts: entries whose keys strictly increase, so that each key is bound
once and the entries come out in key order. -/
structure Dict where
  entries : List (String × String)
  sorted : entries.Pairwise (·.1 < ·.1)
deriving DecidableEq, Repr

namespace Dict

instance : EmptyCollection Dict :=
  ⟨⟨[], .nil⟩⟩

instance : Inhabited Dict :=
  ⟨{}⟩

@[simp] theorem entries_empty : (∅ : Dict).entries = [] := rfl

/-- The map with `k` bound to `v`. -/
def insert (d : Dict) (k v : String) : Dict :=
  ⟨insertEntry k v d.entries, pairwise_insertEntry k v d.sorted⟩

def get? (d : Dict) (k : String) : Option String :=
  d.entries.lookup k

def contains (d : Dict) (k : String) : Bool :=
  (d.get? k).isSome

/-- The entries in key order. -/
def toList (d : Dict) : List (String × String) :=
  d.entries

def isEmpty (d : Dict) : Bool :=
  d.entries.isEmpty

def erase (d : Dict) (k : String) : Dict :=
  ⟨d.entries.filter (·.1 != k), d.sorted.filter _⟩

/-- Whether every entry of one map is an entry of another. -/
def isSubmap (d e : Dict) : Bool :=
  d.entries.all fun (k, v) => e.get? k == some v

/-- The map of a list of entries; of two entries with one key the later wins. -/
def ofList (es : List (String × String)) : Dict :=
  es.foldl (fun d e => d.insert e.1 e.2) {}

theorem lookup_insertEntry_self (k v : String) (es : List (String × String)) :
    (insertEntry k v es).lookup k = some v := by
  induction es with
  | nil => simp [insertEntry]
  | cons e rest ih =>
    obtain ⟨k', v'⟩ := e
    unfold insertEntry
    by_cases hlt : k < k'
    · simp [hlt]
    · by_cases heq : k = k'
      · simp [heq]
      · have hne : (k == k') = false := by simpa using heq
        simp [hlt, heq, List.lookup_cons, hne, ih]

theorem get?_insert_self (d : Dict) (k v : String) : (d.insert k v).get? k = some v :=
  lookup_insertEntry_self k v d.entries

end Dict

end ManifestLint
