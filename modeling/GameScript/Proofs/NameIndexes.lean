import GameScript.Proofs.InternedNames

/-! Indexes of names. Functions, classes and interned names are looked up by a scan for the first entry
with the name. An index from folded names to numbers that is kept beside such a table, and that gets an
entry when the table gets a name it did not have, finds the same numbers after every change. -/

namespace GameScript

open Text

/-- Under every folded name the index has the number that looking the name up gives. -/
def Indexes (index : Std.HashMap String α) (find? : String → Option α) : Prop :=
  ∀ name, index[fold name]? = find? name

namespace Indexes

variable {index : Std.HashMap String α} {before after : String → Option α} {name : String} {number : α}

theorem empty (nothing : ∀ name, before name = none) :
    Indexes (∅ : Std.HashMap String α) before := by
  intro name
  rw [Std.HashMap.getElem?_empty, nothing]

theorem getD (indexes : Indexes index before) :
    index.getD (fold name) number = (before name).getD number := by
  rw [Std.HashMap.getD_eq_getD_getElem?, indexes]

theorem insertIfNew (indexes : Indexes index before)
    (changed : ∀ other, after other =
      if fold other = fold name then some ((before name).getD number) else before other) :
    Indexes (index.insertIfNew (fold name) number) after := by
  intro other
  have there : fold name ∈ index ↔ (before name).isSome := by
    rw [← indexes name, Std.HashMap.mem_iff_isSome_getElem?]
  rw [Std.HashMap.getElem?_insertIfNew, changed, indexes other]
  by_cases same : fold other = fold name
  · have equal : before other = before name := by rw [← indexes, ← indexes, same]
    rw [if_pos same, equal]
    cases known : before name with
    | none => simp [there, known, same]
    | some number => simp [there, known]
  · rw [if_neg same, if_neg fun both => same (eq_of_beq both.1).symm]

theorem insertIfNew_known {known : α} (indexes : Indexes index before)
    (there : before name = some known) : Indexes (index.insertIfNew (fold name) number) before := by
  refine indexes.insertIfNew fun other => ?_
  split
  next same => rw [← indexes other, same, indexes, there, Option.getD_some]
  next => rfl

end Indexes

/-! ### Functions -/

namespace Library

variable {library : Library ν} {index : Std.HashMap String FunctionId} {callable : Callable ν}

theorem indexes_empty : Indexes ∅ (empty : Library ν).find? :=
  .empty fun _ => by simp [find?, empty]

theorem install_fst :
    (library.install callable).1 =
      (library.find? callable.name).getD ⟨UInt32.ofNat library.size⟩ := by
  cases known : library.find? callable.name with
  | some id => rw [install_of_known known, Option.getD_some]
  | none => rw [install_of_new known, Option.getD_none]

theorem indexes_install (indexes : Indexes index library.find?)
    (small : (library.install callable).2.Small) :
    (library.install callable).1 =
      index.getD (fold callable.name) ⟨UInt32.ofNat library.size⟩ ∧
    Indexes (index.insertIfNew (fold callable.name) ⟨UInt32.ofNat library.size⟩)
      (library.install callable).2.find? := by
  refine ⟨?_, indexes.insertIfNew fun other => ?_⟩
  · rw [indexes.getD, install_fst]
  · rw [find?_install small, install_fst]

def indexAll (library : Library ν) (index : Std.HashMap String FunctionId) :
    List LinkedRoutine → Std.HashMap String FunctionId
  | [] => index
  | routine :: rest =>
    (library.install (.script routine)).2.indexAll
      (index.insertIfNew (fold routine.name) ⟨UInt32.ofNat library.size⟩) rest

theorem indexes_installAll {routines : List LinkedRoutine} (indexes : Indexes index library.find?)
    (small : (library.installAll routines).1.Small) :
    Indexes (library.indexAll index routines) (library.installAll routines).1.find? := by
  induction routines generalizing library index with
  | nil => exact indexes
  | cons routine rest ih =>
    have last : ((library.install (.script routine)).2.installAll rest).1.Small := small
    exact ih (indexes_install indexes ((Later.installAll _ rest).small last)).2 last

theorem indexes_load {classes : Classes} {program : Program} {loaded : Loaded ν}
    (indexes : Indexes index library.find?) (small : loaded.library.Small)
    (load : library.load classes program = .ok loaded) :
    ∃ linked, library.Loads classes program linked loaded ∧
      Indexes (library.indexAll index linked) loaded.library.find? := by
  obtain ⟨linked, loads⟩ := loads_of_load small load
  refine ⟨linked, loads, ?_⟩
  rw [loads.library] at small ⊢
  exact indexes_installAll indexes small

/-- The numbers planned for the routines of a program so far, as an index of their own. -/
theorem indexes_plan {planned : List (String × FunctionId)} {name : String} {id : FunctionId}
    (indexes : Indexes index fun wanted =>
      (planned.find? fun entry => sameFold entry.1 wanted).map Prod.snd)
    (fresh : ∀ entry ∈ planned, fold entry.1 ≠ fold name) :
    Indexes (index.insertIfNew (fold name) id) fun wanted =>
      ((planned ++ [(name, id)]).find? fun entry => sameFold entry.1 wanted).map Prod.snd := by
  have missing {wanted : String} (named : fold wanted = fold name) :
      planned.find? (fun entry => sameFold entry.1 wanted) = none := by
    refine List.find?_eq_none.2 fun entry member same => fresh entry member ?_
    rw [← named, sameFold_iff.1 same]
  refine indexes.insertIfNew fun other => ?_
  rw [List.find?_append]
  by_cases same : fold other = fold name
  · simp [missing same, missing rfl, sameFold_iff.2 same.symm, same]
  · have apart : sameFold name other = false := beq_false_of_ne (Ne.symm same)
    simp [apart, same]

end Library

/-! ### Classes -/

namespace Classes

variable {classes after : Classes} {index : Std.HashMap String ClassId} {info : ClassInfo}

theorem find?_eq (name : String) :
    classes.find? name = (place? classes.entries ClassInfo.name name).map (⟨UInt32.ofNat ·⟩) := rfl

theorem indexes_empty : Indexes ∅ empty.find? := .empty fun _ => by simp [find?, empty]

theorem indexes_define (indexes : Indexes index classes.find?) (small : classes.size < 2 ^ 32) :
    (classes.define info).1 = index.getD (fold info.name) ⟨UInt32.ofNat classes.size⟩ ∧
    Indexes (index.insertIfNew (fold info.name) ⟨UInt32.ofNat classes.size⟩)
      (classes.define info).2.find? := by
  rw [indexes.getD]
  cases place : place? classes.entries ClassInfo.name info.name with
  | none =>
    have known : classes.find? info.name = none := by rw [find?_eq, place]; rfl
    simp only [define, known, Option.getD_none, true_and]
    refine indexes.insertIfNew fun other => ?_
    rw [find?_eq, place?_push place, known, Option.getD_none]
    split <;> rfl
  | some index =>
    have known : classes.find? info.name = some ⟨UInt32.ofNat index⟩ := by rw [find?_eq, place]; rfl
    obtain ⟨old, held, named⟩ := held_of_place? place
    have within : (UInt32.ofNat index).toNat = index := by
      rw [UInt32.toNat_ofNat']
      exact Nat.mod_eq_of_lt (Nat.lt_trans (Array.getElem?_eq_some_iff.1 held).1 small)
    simp only [define, known, Option.getD_some, true_and]
    have same : Classes.find? ⟨classes.entries.setIfInBounds index info⟩ = classes.find? := by
      funext other
      rw [find?_eq, place?_set held named, find?_eq]
    rw [within, same]
    exact indexes.insertIfNew_known known

/-- The names of classes stay as they are. -/
theorem indexes_setVirtual {id : ClassId} {slot : Nat} {function : FunctionId}
    (indexes : Indexes index classes.find?)
    (done : classes.setVirtual id slot function = .ok after) : Indexes index after.find? := by
  intro name
  unfold setVirtual at done
  split at done
  next => cases done
  next info held =>
    cases done
    rw [indexes, find?_eq, find?_eq]
    refine congrArg _ (Eq.symm (place?_set held ?_))
    rfl

end Classes

/-! ### Interned names -/

namespace Names

variable {names : Names} {index : Std.HashMap String Int32} {name : String}

theorem find?_eq (name : String) :
    names.find? name = (place? names.spellings id name).map Int32.ofNat := rfl

theorem indexes_push (indexes : Indexes index names.find?) (new : names.find? name = none) :
    Indexes (index.insertIfNew (fold name) (Int32.ofNat names.size))
      (Names.find? ⟨names.spellings.push name⟩) := by
  refine indexes.insertIfNew fun other => ?_
  have fresh : place? names.spellings id (id name) = none := Option.map_eq_none_iff.1 new
  rw [find?_eq, place?_push fresh, new, id]
  split <;> rfl

theorem indexes_empty :
    Indexes ((∅ : Std.HashMap String Int32).insertIfNew (fold "None") 0) empty.find? := by
  have nothing (name : String) : Names.find? ⟨#[]⟩ name = none := by simp [find?]
  have only := indexes_push (.empty nothing) (nothing "None")
  exact only

def indexed (names : Names) (index : Std.HashMap String Int32) (name : String) :
    Std.HashMap String Int32 :=
  if name.isEmpty then index else index.insertIfNew (fold name) (Int32.ofNat names.size)

theorem indexes_intern (indexes : Indexes index names.find?) (name : String) :
    (names.intern name).1 =
      (if name.isEmpty then 0 else index.getD (fold name) (Int32.ofNat names.size)) ∧
    Indexes (names.indexed index name) (names.intern name).2.find? := by
  unfold indexed intern
  rw [indexes.getD]
  split
  next => exact ⟨rfl, indexes⟩
  next =>
    cases known : names.find? name with
    | some number => exact ⟨rfl, indexes.insertIfNew_known known⟩
    | none => exact ⟨rfl, indexes_push indexes known⟩

def indexedAll (names : Names) (index : Std.HashMap String Int32) :
    List String → Std.HashMap String Int32
  | [] => index
  | name :: rest => (names.intern name).2.indexedAll (names.indexed index name) rest

theorem indexes_internAll (indexes : Indexes index names.find?) (calls : List String) :
    Indexes (names.indexedAll index calls)
      (calls.foldl (fun names name => (names.intern name).2) names).find? := by
  induction calls generalizing names index with
  | nil => exact indexes
  | cons name rest ih => exact ih (indexes_intern indexes name).2

end Names
end GameScript
