import Mathlib.Data.Option.Basic

/-! A file kept in two generations. A write first moves the current file over the
backup and then puts a new file in its place, each of the two atomically; recovery
reads the current file, or the backup when there is no current one. -/

namespace OctoChannel.Foundation

universe u v

/-- The two files; `none` is an absent file. -/
structure Generations (Content : Type u) where
  current : Option Content
  backup : Option Content
  deriving DecidableEq

namespace Generations

variable {Content : Type u} {Record : Type v} {files : Generations Content}

def absent : Generations Content := ⟨none, none⟩

/-- What recovery finds. -/
def newest (files : Generations Content) : Option Content := files.current.or files.backup

/-- Move the current file, when there is one, over the backup. -/
def rotate (files : Generations Content) : Generations Content :=
  if files.current.isSome then ⟨none, files.current⟩ else files

def replace (files : Generations Content) (content : Content) : Generations Content :=
  { files with current := some content }

/-- Between the two moves there is no current file, but recovery finds it still. -/
@[simp] theorem newest_rotate (files : Generations Content) : files.rotate.newest = files.newest := by
  unfold rotate newest
  split
  · rename_i present
    obtain ⟨content, found⟩ := Option.isSome_iff_exists.mp present
    simp [found]
  · rfl

@[simp] theorem newest_replace (files : Generations Content) (content : Content) :
    (files.replace content).newest = some content := rfl

/-- The record of the last write that was reported as done, and the records of the
writes begun since. -/
structure Ledger (Record : Type v) where
  durable : Option Record
  later : List Record

namespace Ledger

variable {ledger : Ledger Record} {stores : Record → Content → Prop}

def blank : Ledger Record := ⟨none, []⟩

def attempt (ledger : Ledger Record) (record : Record) : Ledger Record :=
  { ledger with later := record :: ledger.later }

def commit (record : Record) : Ledger Record := ⟨some record, []⟩

/-- The record belongs to the last reported write or to a later one. -/
def Allows (ledger : Ledger Record) (record : Record) : Prop :=
  ledger.durable = some record ∨ record ∈ ledger.later

/-- Recovery finds a record that the ledger allows; it finds nothing only while no
write has been reported as done. -/
def Accounts (ledger : Ledger Record) (stores : Record → Content → Prop) (found : Option Content) :
    Prop :=
  match found with
  | some content => ∃ record, ledger.Allows record ∧ stores record content
  | none => ledger.durable = none

theorem Allows.attempt {record : Record} (allowed : ledger.Allows record) (other : Record) :
    (ledger.attempt other).Allows record :=
  allowed.imp id (List.mem_cons_of_mem other)

/-- A write that leaves the newest file alone, whatever it did to the older one. -/
theorem Accounts.attempt {found : Option Content} (accounts : ledger.Accounts stores found)
    (record : Record) : (ledger.attempt record).Accounts stores found := by
  cases found with
  | none => exact accounts
  | some content =>
    obtain ⟨old, allowed, stored⟩ := accounts
    exact ⟨old, allowed.attempt record, stored⟩

/-- A write that went through without being reported. -/
theorem accounts_attempt {record : Record} {content : Content} (stored : stores record content) :
    (ledger.attempt record).Accounts stores (some content) :=
  ⟨record, .inr (List.mem_cons_self ..), stored⟩

/-- A write that was reported as done. -/
theorem accounts_commit {record : Record} {content : Content} (stored : stores record content) :
    (commit record).Accounts stores (some content) :=
  ⟨record, .inl rfl, stored⟩

end Ledger

end Generations

end OctoChannel.Foundation
