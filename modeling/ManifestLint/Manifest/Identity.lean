/-! # Object identities

The group, version and kind of an object, read off its `apiVersion` and `kind`. The group is what
stands before the last slash of the `apiVersion`; without a slash the group is the core group.
-/

namespace ManifestLint

/-- The type identity of an object. -/
structure Identity where
  group : String
  version : String
  kind : String
deriving DecidableEq, Repr

namespace Identity

/-- Splits a list at its last occurrence of `sep`, if any. -/
def splitLast (sep : Char) (cs : List Char) : Option (List Char × List Char) :=
  match (cs.reverse.span (· != sep)) with
  | (_, []) => none
  | (after, _ :: before) => some (before.reverse, after.reverse)

/-- The identity of an object with the given `apiVersion` and kind. -/
def ofApiVersion (apiVersion kind : String) : Identity :=
  match splitLast '/' apiVersion.toList with
  | some (g, v) => ⟨String.ofList g, String.ofList v, kind⟩
  | none => ⟨"", apiVersion, kind⟩

/-- The `apiVersion` written back from group and version. -/
def apiVersion (id : Identity) : String :=
  if id.group.isEmpty then id.version else id.group ++ "/" ++ id.version

/-- The identity as reports print it: the `apiVersion`, then the kind. -/
def render (id : Identity) : String :=
  id.apiVersion ++ ", Kind=" ++ id.kind

end Identity

end ManifestLint
