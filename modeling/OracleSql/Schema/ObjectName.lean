import OracleSql.Name

set_option autoImplicit false

namespace OracleSql

structure ObjectName where
  owner : Option String
  name : String
  deriving DecidableEq

namespace ObjectName

/-- A dot separates the owner from the name if both are there; otherwise the default owner holds. -/
def resolve (name : String) (defaultOwner : Option String) : ObjectName :=
  let owner := name.toList.takeWhile (· != '.')
  match name.toList.dropWhile (· != '.') with
  | '.' :: c :: rest =>
      if owner.isEmpty then ⟨defaultOwner, name⟩
      else ⟨some (String.ofList owner), String.ofList (c :: rest)⟩
  | _ => ⟨defaultOwner, name⟩

theorem resolve_of_no_dot (name : String) (defaultOwner : Option String)
    (h : '.' ∉ name.toList) : resolve name defaultOwner = ⟨defaultOwner, name⟩ := by
  have none : ∀ cs : List Char, '.' ∉ cs → cs.dropWhile (· != '.') = [] := by
    intro cs
    induction cs with
    | nil => simp
    | cons c cs ih =>
      intro absent
      have differs : c ≠ '.' := fun same => absent (by simp [same])
      simp [differs, ih fun later => absent (List.mem_cons_of_mem c later)]
  simp [resolve, none _ h]

def render (n : ObjectName) : String :=
  match n.owner with
  | some owner => Name.quote owner ++ "." ++ Name.quote n.name
  | none => Name.quote n.name

def display (n : ObjectName) : String :=
  match n.owner with
  | some owner => owner ++ "." ++ n.name
  | none => n.name

end ObjectName

def sequenceEnding : String := "_seq"

/-- The sequence behind the values of a column. A name that is too long keeps the start of the
entity's name only. -/
def sequenceName (entity column : String) (limit : Nat) : String :=
  let name := entity ++ "_" ++ column ++ sequenceEnding
  if name.length ≤ limit then name
  else String.ofList (entity.toList.take (limit - sequenceEnding.length)) ++ sequenceEnding

theorem length_sequenceName_le (entity column : String) (limit : Nat) (h : 4 ≤ limit) :
    (sequenceName entity column limit).length ≤ limit := by
  have ending : sequenceEnding.length = 4 := by decide
  simp only [sequenceName]
  split
  next fits => exact fits
  next => simp only [String.length_append, String.length_ofList, List.length_take, ending]; omega

end OracleSql
