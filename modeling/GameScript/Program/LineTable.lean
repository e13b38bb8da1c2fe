import GameScript.Codec.Format

/-! Which source line an instruction came from. The table keeps an entry where the line changes;
the line of an instruction is that of the last entry at or before it. -/

namespace GameScript

structure LineEntry where
  offset : UInt32
  line : UInt32
deriving DecidableEq, Repr, Inhabited

structure LineTable where
  entries : Array LineEntry
deriving DecidableEq, Repr, Inhabited

namespace LineTable

def empty : LineTable := ⟨#[]⟩

/-- Code from `offset` on belongs to `line`. A repeated line adds nothing, and a new line for the
same offset replaces the old one. -/
def push (table : LineTable) (offset line : UInt32) : LineTable :=
  match table.entries.back? with
  | none => ⟨table.entries.push ⟨offset, line⟩⟩
  | some last =>
    if last.line = line then table
    else if last.offset = offset then ⟨table.entries.pop.push ⟨offset, line⟩⟩
    else ⟨table.entries.push ⟨offset, line⟩⟩

/-- Halves `[base, base + size)` down to one position, keeping the upper half whenever `covers`
holds at its start. -/
def bisect (covers : Nat → Bool) (base size : Nat) : Nat :=
  if 1 < size then
    let middle := base + size / 2
    bisect covers (if covers middle then middle else base) (size - size / 2)
  else base
termination_by size

/-- How many entries lie at or before an offset, found by halving. -/
def countUpTo (table : LineTable) (offset : Nat) : Nat :=
  let covers position := match table.entries[position]? with
    | some entry => decide (entry.offset.toNat ≤ offset)
    | none => false
  if table.entries.isEmpty then 0
  else
    let position := bisect covers 0 table.entries.size
    if covers position then position + 1 else position

def lineFor (table : LineTable) (offset : Nat) : Option UInt32 :=
  match table.countUpTo offset with
  | 0 => none
  | position + 1 => (table.entries[position]?).map LineEntry.line

end LineTable

instance : Codec.Wire LineTable where
  format := .list (.pair .word32 .word32)
  toValue table := table.entries.toList.map fun entry => (entry.offset, entry.line)
  ofValue pairs := ⟨(List.map (fun (offset, line) => ⟨offset, line⟩) pairs).toArray⟩

end GameScript
