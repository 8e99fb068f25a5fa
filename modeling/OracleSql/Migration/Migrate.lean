import OracleSql.Migration.Request
import OracleSql.Table

set_option autoImplicit false

namespace OracleSql

inductive Outcome where
  | alreadyApplied (version : String)
  | created (entry : LedgerEntry)
  | altered (added changed : Nat) (entry : LedgerEntry)
  deriving DecidableEq

namespace Outcome

def recorded : Outcome → Option LedgerEntry
  | .alreadyApplied _ => none
  | .created entry | .altered _ _ entry => some entry

def wasApplied : Outcome → Bool
  | .alreadyApplied _ => true
  | _ => false

theorem recorded_eq_none_iff (o : Outcome) : o.recorded = none ↔ o.wasApplied = true := by
  cases o <;> simp [recorded, wasApplied]

end Outcome

namespace Request

def entry (r : Request) (id : Int) : LedgerEntry :=
  ⟨id, r.appliesTo, r.model, r.version, r.description⟩

def alter (r : Request) (table : Table) : Action (Nat × Nat) := do
  let existing ← table.columns
  let diff := ColumnDiff.between r.add existing
  table.add diff.add
  if diff.change.isEmpty then pure () else table.modify diff.change existing
  pure (diff.add.length, diff.change.length)

/-- Brings the table to the version that is asked for and enters that in the ledger. -/
def apply (options : Options) (r : Request) : Action Outcome := do
  let table := Table.named options r.appliesTo
  if ← table.isThere then
    let (added, changed) ← r.alter table
    let entry ← Ledger.append options r.entry
    pure (.altered added changed entry)
  else
    table.create r.add
    let entry ← Ledger.append options r.entry
    pure (.created entry)

def isApplied (r : Request) (current : String) : Bool :=
  Version.compare current r.version != .lt

def migrate (options : Options) (r : Request) : Action Outcome :=
  match r.fault? with
  | some fault => throw (.request fault)
  | none => do
      Ledger.ensure
      let current ← Ledger.version r.appliesTo
      if r.isApplied current then pure (.alreadyApplied current) else r.apply options

end Request

end OracleSql
