import Mathlib.Data.List.Forall2
import GameScript.Library.Load
import GameScript.Proofs.TokenSpelling

/-! The numbers of functions. Whatever is installed or loaded, a name keeps the number it got first,
and the numbers planned for the routines of a program before anything is installed are the ones
that installing them gives. Everything follows from what installing one function does to lookup by
name and to lookup by number. -/

namespace GameScript

open Text

theorem Library.sameFold_iff {left right : String} : sameFold left right = true ↔ fold left = fold right :=
  beq_iff_eq

/-- The first place of an entry with a name. -/
def place? (entries : Array ε) (label : ε → String) (name : String) : Option Nat :=
  entries.findIdx? fun entry => sameFold (label entry) name

section Places

variable {entries : Array ε} {label : ε → String} {entry old : ε} {name : String} {place : Nat}

theorem place?_push (new : place? entries label (label entry) = none) :
    place? (entries.push entry) label name =
      if fold name = fold (label entry) then some entries.size else place? entries label name := by
  by_cases named : fold name = fold (label entry)
  · have self : sameFold (label entry) name = true := Library.sameFold_iff.2 named.symm
    have fresh : place? entries label name = none := by
      simpa only [place?, sameFold, named] using new
    rw [place?] at fresh
    simp [place?, Array.findIdx?_push, fresh, self, named]
  · have other : sameFold (label entry) name = false := beq_false_of_ne (Ne.symm named)
    simp [place?, Array.findIdx?_push, named, other]

theorem held_of_place? (found : place? entries label name = some place) :
    ∃ old, entries[place]? = some old ∧ fold (label old) = fold name := by
  obtain ⟨within, same, -⟩ := Array.findIdx?_eq_some_iff_getElem.1 found
  exact ⟨_, Array.getElem?_eq_getElem within, Library.sameFold_iff.1 same⟩

/-- An entry that has the same name as the one it replaces changes nothing. -/
theorem place?_set (held : entries[place]? = some old) (same : fold (label old) = fold (label entry)) :
    place? (entries.setIfInBounds place entry) label name = place? entries label name := by
  have keys : (entries.setIfInBounds place entry).map (fold ∘ label) = entries.map (fold ∘ label) := by
    rw [Array.map_setIfInBounds]
    apply Array.ext_getElem?
    intro index
    grind
  have through (table : Array ε) :
      place? table label name = (table.map (fold ∘ label)).findIdx? (· == fold name) := by
    rw [Array.findIdx?_map]
    rfl
  rw [through, through, keys]

end Places

namespace Library

def Small (library : Library ν) : Prop := library.size < 2 ^ 32

section Numbers

variable {library : Library ν} {callable entry : Callable ν} {name : String} {id : FunctionId}

theorem get_eq_ok : library.get id = .ok entry ↔ library.entries[id.index.toNat]? = some entry := by
  unfold get
  split
  next found => simp [found]
  next missing => simp [missing]

theorem toNat_ofNat_index {index : Nat} (small : library.Small) (within : index ≤ library.size) :
    (UInt32.ofNat index).toNat = index := by
  rw [UInt32.toNat_ofNat']
  exact Nat.mod_eq_of_lt (Nat.lt_of_le_of_lt within small)

theorem find?_eq_some (small : library.Small) (found : library.find? name = some id) :
    ∃ entry, library.get id = .ok entry ∧ fold entry.name = fold name := by
  obtain ⟨index, place, rfl⟩ := Option.map_eq_some_iff.1 found
  obtain ⟨entry, held, same⟩ := held_of_place? place
  refine ⟨entry, get_eq_ok.2 ?_, same⟩
  rw [toNat_ofNat_index small (Array.getElem?_eq_some_iff.1 held).1.le, held]

theorem find?_congr {other : String} (same : fold name = fold other) :
    library.find? name = library.find? other := by
  simp only [find?, sameFold, same]

theorem find?_eq : library.find? name =
    (place? library.entries Callable.name name).map (⟨UInt32.ofNat ·⟩) := rfl

end Numbers

/-! ### Installing one function -/

section Install

variable {library : Library ν} {callable entry : Callable ν} {name : String} {id : FunctionId}

theorem install_of_known (known : library.find? callable.name = some id) :
    library.install callable = (id, ⟨library.entries.setIfInBounds id.index.toNat callable⟩) := by
  simp only [install, known]

theorem install_of_new (new : library.find? callable.name = none) :
    library.install callable =
      (⟨UInt32.ofNat library.size⟩, ⟨library.entries.push callable⟩) := by
  simp only [install, new]

theorem size_install (library : Library ν) (callable : Callable ν) :
    (library.install callable).2.size =
    if (library.find? callable.name).isSome then library.size else library.size + 1 := by
  cases known : library.find? callable.name with
  | some id => simp [install_of_known known, size]
  | none => simp [install_of_new known, size]

theorem size_le_install : library.size ≤ (library.install callable).2.size := by
  rw [size_install]
  split <;> omega

theorem Small.of_install (small : (library.install callable).2.Small) : library.Small :=
  Nat.lt_of_le_of_lt size_le_install small

theorem get_install (small : (library.install callable).2.Small) :
    (library.install callable).2.get id =
      if id = (library.install callable).1 then .ok callable else library.get id := by
  have before := small.of_install
  cases known : library.find? callable.name with
  | some found =>
    obtain ⟨entry, held, -⟩ := find?_eq_some before known
    have within := (Array.getElem?_eq_some_iff.1 (get_eq_ok.1 held)).1
    rw [install_of_known known]
    by_cases same : id = found
    · subst same
      simp [get, within]
    · have apart : found.index.toNat ≠ id.index.toNat := by
        intro equal
        exact same (congrArg FunctionId.mk (UInt32.toNat.inj equal)).symm
      simp [get, same, apart]
  | none =>
    rw [install_of_new known]
    have last : (UInt32.ofNat library.size).toNat = library.size :=
      toNat_ofNat_index before le_rfl
    by_cases same : id = ⟨UInt32.ofNat library.size⟩
    · subst same
      rw [if_pos rfl, get_eq_ok, last]
      exact Array.getElem?_push_size
    · have apart : id.index.toNat ≠ library.entries.size := by
        intro equal
        apply same
        rw [size, ← equal, UInt32.ofNat_toNat]
      rw [if_neg same, get, get, Array.getElem?_push, if_neg apart]

theorem find?_install (small : (library.install callable).2.Small) :
    (library.install callable).2.find? name =
      if fold name = fold callable.name then some (library.install callable).1
      else library.find? name := by
  have before := small.of_install
  cases known : library.find? callable.name with
  | some found =>
    obtain ⟨index, place, rfl⟩ := Option.map_eq_some_iff.1 known
    obtain ⟨old, held, same⟩ := held_of_place? place
    have within : (UInt32.ofNat index).toNat = index :=
      toNat_ofNat_index before (Array.getElem?_eq_some_iff.1 held).1.le
    have kept : (library.install callable).2.find? name = library.find? name := by
      rw [install_of_known known, within, find?_eq, place?_set held same, ← find?_eq]
    rw [kept, install_of_known known]
    split
    next named => rw [← known, find?_congr named]
    next => rfl
  | none =>
    rw [install_of_new known, find?_eq, place?_push (Option.map_eq_none_iff.1 known)]
    split <;> rfl

/-- The number that a function gets was free or belonged to its name. -/
theorem name_of_get_install_fst (small : library.Small)
    (held : library.get (library.install callable).1 = .ok entry) :
    fold entry.name = fold callable.name := by
  cases known : library.find? callable.name with
  | some number =>
    obtain ⟨previous, before, folded⟩ := find?_eq_some small known
    rw [install_of_known known, before] at held
    cases held
    exact folded
  | none =>
    rw [install_of_new known, get_eq_ok, toNat_ofNat_index small le_rfl] at held
    exact absurd (Array.getElem?_eq_some_iff.1 held).1 (Nat.lt_irrefl _)

theorem get_install_of_ne (small : (library.install callable).2.Small)
    (other : fold entry.name ≠ fold callable.name) :
    (library.install callable).2.get id = .ok entry ↔ library.get id = .ok entry := by
  rw [get_install small]
  split
  next same =>
    constructor
    · intro held
      cases held
      exact absurd rfl other
    · intro held
      rw [same] at held
      exact absurd (name_of_get_install_fst small.of_install held) other
  next => rfl

end Install

/-! ### Changes -/

/-- Every function is found under its own name, so no two names are the same up to case. -/
def Distinct (library : Library ν) : Prop :=
  ∀ id entry, library.get id = .ok entry → library.find? entry.name = some id

theorem distinct_empty : (empty : Library ν).Distinct := by
  intro id entry held
  simp [get, empty] at held

theorem Distinct.find?_eq_some_iff {library : Library ν} (distinct : library.Distinct)
    (small : library.Small) {name : String} {id : FunctionId} :
    library.find? name = some id ↔
      ∃ entry, library.get id = .ok entry ∧ fold entry.name = fold name := by
  constructor
  · exact find?_eq_some small
  · rintro ⟨entry, held, same⟩
    rw [← find?_congr same]
    exact distinct id entry held

/-- What no change to a library undoes, as long as there are numbers left. -/
structure Later (before after : Library ν) : Prop where
  size : before.size ≤ after.size
  numbers : after.Small → ∀ name id, before.find? name = some id → after.find? name = some id
  distinct : after.Small → before.Distinct → after.Distinct

namespace Later

variable {first second third : Library ν}

theorem small (later : Later first second) (small : second.Small) : first.Small :=
  Nat.lt_of_le_of_lt later.size small

theorem refl (library : Library ν) : Later library library :=
  ⟨le_rfl, fun _ _ _ found => found, fun _ distinct => distinct⟩

theorem trans (left : Later first second) (right : Later second third) : Later first third where
  size := left.size.trans right.size
  numbers small name id found :=
    right.numbers small name id (left.numbers (right.small small) name id found)
  distinct small distinct := right.distinct small (left.distinct (right.small small) distinct)

theorem install (library : Library ν) (callable : Callable ν) :
    Later library (library.install callable).2 where
  size := size_le_install
  numbers small name id found := by
    rw [find?_install small]
    split
    next same =>
      have known : library.find? callable.name = some id := by
        rw [← find?_congr same, found]
      rw [install_of_known known]
    next => exact found
  distinct small distinct := by
    intro id entry held
    rw [get_install small] at held
    split at held
    next same =>
      cases held
      rw [find?_install small, if_pos rfl, same]
    next apart =>
      rw [find?_install small, distinct id entry held]
      split
      next same =>
        refine absurd ?_ apart
        have known : library.find? callable.name = some id := by
          rw [← find?_congr same, distinct id entry held]
        rw [install_of_known known]
      next => rfl

theorem installAll (library : Library ν) (routines : List LinkedRoutine) :
    Later library (library.installAll routines).1 := by
  induction routines generalizing library with
  | nil => exact refl library
  | cons routine rest ih => exact (install library (.script routine)).trans (ih _)

end Later

def installedIds (library : Library ν) : List LinkedRoutine → List FunctionId
  | [] => []
  | routine :: rest =>
    (library.install (.script routine)).1 ::
      (library.install (.script routine)).2.installedIds rest

section InstallAll

variable {library : Library ν} {entry : Callable ν} {routines : List LinkedRoutine}

theorem get_installAll_of_ne {id : FunctionId} (small : (library.installAll routines).1.Small)
    (other : ∀ routine ∈ routines, fold entry.name ≠ fold routine.name) :
    (library.installAll routines).1.get id = .ok entry ↔ library.get id = .ok entry := by
  induction routines generalizing library with
  | nil => rfl
  | cons routine rest ih =>
    have last : ((library.install (.script routine)).2.installAll rest).1.Small := small
    have tail := ih last fun routine member => other routine (.tail _ member)
    refine tail.trans (get_install_of_ne ?_ (other routine (.head _)))
    exact (Later.installAll _ rest).small last

/-- Routines with different names are all there in the end, under the numbers they got. -/
theorem get_installAll (small : (library.installAll routines).1.Small)
    (apart : (routines.map (fold ·.name)).Nodup) :
    List.Forall₂ (fun id routine => (library.installAll routines).1.get id = .ok (.script routine))
      (library.installedIds routines) routines := by
  induction routines generalizing library with
  | nil => exact .nil
  | cons routine rest ih =>
    obtain ⟨first, apart⟩ := List.nodup_cons.1 apart
    have last : ((library.install (.script routine)).2.installAll rest).1.Small := small
    refine .cons ?_ (ih last apart)
    refine (get_installAll_of_ne last ?_).2 ?_
    · intro other member same
      exact first (List.mem_map.2 ⟨other, member, same.symm⟩)
    · rw [get_install ((Later.installAll _ rest).small last), if_pos rfl]

end InstallAll

/-! ### Planning numbers -/

/-- The library `current` is what `library` becomes when the routines planned so far are installed,
as far as names and numbers go. -/
structure Plans (library : Library ν) (planned : List (String × FunctionId)) (next : UInt32)
    (current : Library ν) : Prop where
  next : next = UInt32.ofNat current.size
  lookup (name : String) : current.find? name =
    ((planned.find? fun entry => sameFold entry.1 name).map Prod.snd).or (library.find? name)

section Plan

variable {library current : Library ν} {planned result : List (String × FunctionId)} {next : UInt32}
  {routine : Routine} {routines : List Routine}

theorem plans_nil (library : Library ν) :
    library.Plans [] (UInt32.ofNat library.size) library := ⟨rfl, fun _ => rfl⟩

theorem plan_cons_eq_ok (plan : library.plan planned next (routine :: routines) = .ok result) :
    (∀ entry ∈ planned, fold entry.1 ≠ fold routine.name) ∧
      ((∃ id, library.find? routine.name = some id ∧
        library.plan (planned ++ [(routine.name, id)]) next routines = .ok result) ∨
      (library.find? routine.name = none ∧
        library.plan (planned ++ [(routine.name, ⟨next⟩)]) (next + 1) routines = .ok result)) := by
  unfold Library.plan at plan
  split at plan
  next => cases plan
  next fresh =>
    constructor
    · intro entry member same
      exact fresh (List.any_eq_true.2 ⟨entry, member, sameFold_iff.2 same⟩)
    · split at plan
      next id known => exact .inl ⟨id, known, plan⟩
      next unknown => exact .inr ⟨unknown, plan⟩

theorem Plans.install {callable : Callable ν} (sofar : library.Plans planned next current)
    (named : callable.name = routine.name) (small : (current.install callable).2.Small)
    (plan : library.plan planned next (routine :: routines) = .ok result) :
    ∃ later, library.Plans (planned ++ [(routine.name, (current.install callable).1)]) later
        (current.install callable).2 ∧
      library.plan (planned ++ [(routine.name, (current.install callable).1)]) later routines =
        .ok result := by
  obtain ⟨fresh, step⟩ := plan_cons_eq_ok plan
  have unplanned : planned.find? (fun entry => sameFold entry.1 routine.name) = none := by
    rw [List.find?_eq_none]
    intro entry member same
    exact fresh entry member (sameFold_iff.1 same)
  have here : current.find? callable.name = library.find? routine.name := by
    rw [sofar.lookup, named, unplanned]
    rfl
  have lookup (name : String) : (current.install callable).2.find? name =
      (((planned ++ [(routine.name, (current.install callable).1)]).find? fun entry =>
        sameFold entry.1 name).map Prod.snd).or (library.find? name) := by
    rw [find?_install small, named, sofar.lookup]
    by_cases same : fold name = fold routine.name
    · simp [sameFold, same] at unplanned ⊢
      grind
    · have other : sameFold routine.name name = false := beq_false_of_ne (Ne.symm same)
      simp [same, other]
  rcases step with ⟨id, known, plan⟩ | ⟨unknown, plan⟩
  · rw [known] at here
    have size := size_install current callable
    rw [here, Option.isSome_some, if_pos rfl] at size
    refine ⟨next, ⟨size ▸ sofar.next, lookup⟩, ?_⟩
    rw [install_of_known here]
    exact plan
  · rw [unknown] at here
    have size := size_install current callable
    rw [here, Option.isSome_none, if_neg Bool.false_ne_true] at size
    refine ⟨next + 1, ⟨?_, lookup⟩, ?_⟩
    · rw [size, sofar.next, UInt32.ofNat_add]
      rfl
    · rw [install_of_new here, ← sofar.next]
      exact plan

/-- The numbers planned for routines are those that installing them gives, and what is planned in
the end finds every name as the library does once they are installed. -/
theorem Plans.installAll {linked : List LinkedRoutine} (sofar : library.Plans planned next current)
    (named : List.Forall₂ (fun routine linked => linked.name = routine.name) routines linked)
    (small : (current.installAll linked).1.Small)
    (plan : library.plan planned next routines = .ok result) :
    (∃ later, library.Plans result later (current.installAll linked).1) ∧
      result.map Prod.snd = planned.map Prod.snd ++ current.installedIds linked := by
  induction named generalizing planned next current with
  | nil =>
    cases plan
    exact ⟨⟨next, sofar⟩, (List.append_nil _).symm⟩
  | @cons routine first routines linked same _ ih =>
    obtain ⟨later, sofar, plan⟩ := sofar.install (show (Callable.script first).name = _ from same)
      ((Later.installAll _ linked).small small) plan
    obtain ⟨plans, numbers⟩ := ih sofar small plan
    refine ⟨plans, ?_⟩
    rw [numbers, List.map_append, List.append_assoc]
    rfl

theorem resolve_function (classes : Classes) (name : String) :
    library.resolve classes planned (.function name) =
      (((planned.find? fun entry => sameFold entry.1 name).map Prod.snd).or
        (library.find? name)).elim (.error (.undefinedFunction name)) fun id => .ok (.function id) := by
  simp only [Library.resolve]
  split
  next early => simp [early]
  next late =>
    rw [late]
    cases library.find? name <;> rfl

theorem Plans.resolve (sofar : library.Plans planned next current) (classes : Classes)
    (symbol : Symbol) :
    library.resolve classes planned symbol = current.resolve classes [] symbol := by
  cases symbol with
  | null => rfl
  | class_ name => rfl
  | function name =>
    rw [resolve_function, resolve_function, ← sofar.lookup]
    rfl

theorem plan_eq_ok_names (plan : library.plan planned next routines = .ok result) :
    result.map (fold ·.1) = planned.map (fold ·.1) ++ routines.map (fold ·.name) := by
  induction routines generalizing planned next with
  | nil =>
    cases plan
    simp
  | cons routine rest ih =>
    obtain ⟨-, ⟨id, -, plan⟩ | ⟨-, plan⟩⟩ := plan_cons_eq_ok plan <;>
    · rw [ih plan]
      simp

theorem exists_plan_iff : (∃ result, library.plan planned next routines = .ok result) ↔
    (routines.map (fold ·.name)).Nodup ∧
      ∀ routine ∈ routines, ∀ entry ∈ planned, fold entry.1 ≠ fold routine.name := by
  induction routines generalizing planned next with
  | nil => simp [Library.plan]
  | cons routine rest ih =>
    rw [List.map_cons, List.nodup_cons, List.forall_mem_cons]
    constructor
    · rintro ⟨result, plan⟩
      obtain ⟨fresh, step⟩ := plan_cons_eq_ok plan
      have further : ∃ id later,
          library.plan (planned ++ [(routine.name, id)]) later rest = .ok result := by
        rcases step with ⟨id, -, plan⟩ | ⟨-, plan⟩
        · exact ⟨id, next, plan⟩
        · exact ⟨⟨next⟩, next + 1, plan⟩
      obtain ⟨id, later, plan⟩ := further
      obtain ⟨apart, others⟩ := ih.1 ⟨result, plan⟩
      refine ⟨⟨?_, apart⟩, fresh, fun other member entry known =>
        others other member entry (List.mem_append_left _ known)⟩
      intro member
      obtain ⟨other, member, same⟩ := List.mem_map.1 member
      exact others other member (routine.name, id) (by simp) same.symm
    · rintro ⟨⟨first, apart⟩, fresh, others⟩
      have further (id : FunctionId) (later : UInt32) :
          ∃ result, library.plan (planned ++ [(routine.name, id)]) later rest = .ok result := by
        refine ih.2 ⟨apart, fun other member entry known => ?_⟩
        rcases List.mem_append.1 known with known | known
        · exact others other member entry known
        · rw [List.mem_singleton.1 known]
          exact fun same => first (List.mem_map.2 ⟨other, member, same.symm⟩)
      unfold Library.plan
      rw [if_neg]
      · split
        · exact further _ _
        · exact further _ _
      · intro planned
        obtain ⟨entry, known, same⟩ := List.any_eq_true.1 planned
        exact fresh entry known (sameFold_iff.1 same)

end Plan

/-! ### Loading a program -/

section Link

variable {routine : Routine} {linked : LinkedRoutine} {resolve : Symbol → Except Fault Pointer}

theorem exists_mapM_iff {f : α → Except ε β} {values : List α} :
    (∃ results, values.mapM f = .ok results) ↔ ∀ value ∈ values, ∃ result, f value = .ok result := by
  induction values with
  | nil => simp [pure, Except.pure]
  | cons value rest ih =>
    rw [List.mapM_cons, List.forall_mem_cons, ← ih]
    constructor
    · rintro ⟨results, mapped⟩
      obtain ⟨first, head, mapped⟩ := bind_eq_ok.1 mapped
      obtain ⟨others, tail, -⟩ := bind_eq_ok.1 mapped
      exact ⟨⟨first, head⟩, others, tail⟩
    · rintro ⟨⟨first, head⟩, others, tail⟩
      exact ⟨first :: others, bind_eq_ok.2 ⟨first, head, bind_eq_ok.2 ⟨others, tail, rfl⟩⟩⟩

theorem link_eq_ok (link : routine.link resolve = .ok linked) :
    linked.name = routine.name ∧ List.Forall₂ (fun symbol pointer => resolve symbol = .ok pointer)
      routine.pointers.toList linked.constants.pointers.toList := by
  obtain ⟨pointers, mapped, made⟩ := bind_eq_ok.1 link
  cases made
  exact ⟨rfl, Assembly.mapM_eq_ok mapped⟩

theorem exists_link_iff : (∃ linked, routine.link resolve = .ok linked) ↔
    ∀ symbol ∈ routine.pointers, ∃ pointer, resolve symbol = .ok pointer := by
  have through : (∃ linked, routine.link resolve = .ok linked) ↔
      ∃ pointers, routine.pointers.toList.mapM resolve = .ok pointers := by
    constructor
    · rintro ⟨linked, link⟩
      obtain ⟨pointers, mapped, -⟩ := bind_eq_ok.1 link
      exact ⟨pointers, mapped⟩
    · rintro ⟨pointers, mapped⟩
      exact ⟨_, bind_eq_ok.2 ⟨pointers, mapped, rfl⟩⟩
  simp only [through, exists_mapM_iff, Array.mem_toList_iff]

end Link

def Known (library : Library ν) (classes : Classes) (routines : List Routine) : Symbol → Prop
  | .null => True
  | .function name =>
    (∃ routine ∈ routines, fold routine.name = fold name) ∨ ∃ id, library.find? name = some id
  | .class_ name => ∃ id, classes.find? name = some id

/-- In `library`, the function symbols of a routine stand for the functions they name. -/
def FunctionsMeant (library : Library ν) (routine : Routine) (linked : LinkedRoutine) : Prop :=
  ∀ (index : Nat) name, routine.pointers[index]? = some (.function name) →
    ∃ id entry, linked.constants.pointers[index]? = some (.function id) ∧
      library.find? name = some id ∧ library.get id = .ok entry ∧ fold entry.name = fold name

structure Loads (before : Library ν) (classes : Classes) (program : Program)
    (linked : List LinkedRoutine) (loaded : Loaded ν) : Prop where
  /-- The symbols of a routine mean what they mean in the library with the program in it. -/
  links : List.Forall₂
    (fun routine result => routine.link (loaded.library.resolve classes []) = .ok result)
    program.routines linked
  library : loaded.library = (before.installAll linked).1
  ids : loaded.ids = before.installedIds linked
  installed : List.Forall₂
    (fun id result => loaded.library.get id = .ok (.script result)) loaded.ids linked
  others : ∀ id entry, (∀ routine ∈ program.routines, fold entry.name ≠ fold routine.name) →
    (loaded.library.get id = .ok entry ↔ before.get id = .ok entry)

section Load

variable {library : Library ν} {classes : Classes} {program : Program} {loaded : Loaded ν}
  {linked : List LinkedRoutine}

theorem load_eq_ok (load : library.load classes program = .ok loaded) :
    ∃ planned linked, library.plan [] (UInt32.ofNat library.size) program.routines = .ok planned ∧
      List.Forall₂ (fun routine result => routine.link (library.resolve classes planned) = .ok result)
        program.routines linked ∧
      loaded.library = (library.installAll linked).1 ∧ loaded.ids = planned.map Prod.snd := by
  obtain ⟨planned, plan, load⟩ := bind_eq_ok.1 load
  obtain ⟨linked, links, load⟩ := bind_eq_ok.1 load
  cases load
  exact ⟨planned, linked, plan, Assembly.mapM_eq_ok links, rfl, rfl⟩

theorem loads_of_load (small : loaded.library.Small)
    (load : library.load classes program = .ok loaded) :
    ∃ linked, Loads library classes program linked loaded := by
  obtain ⟨planned, linked, plan, links, into, ids⟩ := load_eq_ok load
  have named : List.Forall₂ (fun routine result => result.name = routine.name)
      program.routines linked := links.imp fun _ _ link => (link_eq_ok link).1
  have names : linked.map (fold ·.name) = program.routines.map (fold ·.name) := by
    rw [← List.forall₂_eq_eq_eq, List.forall₂_map_left_iff, List.forall₂_map_right_iff]
    exact named.flip.imp fun _ _ same => congrArg fold same
  rw [into] at small
  obtain ⟨⟨next, plans⟩, numbers⟩ := (plans_nil library).installAll named small plan
  have apart := (exists_plan_iff.1 ⟨planned, plan⟩).1
  rw [List.map_nil, List.nil_append] at numbers
  have resolve : library.resolve classes planned = loaded.library.resolve classes [] := by
    rw [into]
    exact funext (plans.resolve classes)
  refine ⟨linked, resolve ▸ links, into, ids.trans numbers, ?_, ?_⟩
  · rw [ids, numbers, into]
    exact get_installAll small (names ▸ apart)
  · intro id entry other
    rw [into]
    apply get_installAll_of_ne small
    intro result member same
    have listed := List.mem_map_of_mem (f := (fold ·.name)) member
    rw [names] at listed
    obtain ⟨routine, member, equal⟩ := List.mem_map.1 listed
    exact other routine member (same.trans equal.symm)

theorem Loads.functionsMeant (loads : Loads library classes program linked loaded)
    {final : Library ν} (later : Later loaded.library final) (small : final.Small) :
    List.Forall₂ (FunctionsMeant final) program.routines linked := by
  apply loads.links.imp
  intro routine result link index name symbol
  obtain ⟨-, pointers⟩ := link_eq_ok link
  rw [← Array.getElem?_toList] at symbol
  obtain ⟨pointer, held, resolved⟩ := Assembly.exists_getElem?_of_forall₂ pointers symbol
  rw [resolve_function, List.find?_nil, Option.map_none, Option.none_or] at resolved
  cases found : loaded.library.find? name with
  | none =>
    rw [found] at resolved
    cases resolved
  | some id =>
    rw [found] at resolved
    cases resolved
    have known := later.numbers small name id found
    obtain ⟨entry, there, same⟩ := find?_eq_some small known
    exact ⟨id, entry, Array.getElem?_toList ▸ held, known, there, same⟩

theorem exists_resolve_iff {planned : List (String × FunctionId)} {next : UInt32} {symbol : Symbol}
    {routines : List Routine} (plan : library.plan [] next routines = .ok planned) :
    (∃ pointer, library.resolve classes planned symbol = .ok pointer) ↔
      library.Known classes routines symbol := by
  cases symbol with
  | null => exact ⟨fun _ => trivial, fun _ => ⟨.null, rfl⟩⟩
  | class_ name =>
    simp only [Library.resolve, Known]
    cases classes.find? name <;> simp
  | function name =>
    have names := plan_eq_ok_names plan
    have early : (∃ entry, planned.find? (fun entry => sameFold entry.1 name) = some entry) ↔
        ∃ routine ∈ routines, fold routine.name = fold name := by
      rw [← Option.isSome_iff_exists, List.find?_isSome]
      simpa [sameFold] using congrArg (fold name ∈ ·) names
    rw [resolve_function, Known, ← early]
    cases planned.find? (fun entry => sameFold entry.1 name) <;> cases library.find? name <;> simp

/-- A program loads if the names of its routines differ and all its symbols are known. -/
theorem exists_load_iff : (∃ loaded, library.load classes program = .ok loaded) ↔
    (program.routines.map (fold ·.name)).Nodup ∧
      ∀ routine ∈ program.routines, ∀ symbol ∈ routine.pointers,
        library.Known classes program.routines symbol := by
  constructor
  · rintro ⟨loaded, load⟩
    obtain ⟨planned, plan, load⟩ := bind_eq_ok.1 load
    obtain ⟨linked, links, -⟩ := bind_eq_ok.1 load
    refine ⟨(exists_plan_iff.1 ⟨planned, plan⟩).1, fun routine member symbol named => ?_⟩
    have link := exists_mapM_iff.1 ⟨linked, links⟩ routine member
    exact (exists_resolve_iff plan).1 (exists_link_iff.1 link symbol named)
  · rintro ⟨apart, known⟩
    obtain ⟨planned, plan⟩ : ∃ planned,
        library.plan [] (UInt32.ofNat library.size) program.routines = .ok planned :=
      exists_plan_iff.2 ⟨apart, by simp⟩
    obtain ⟨linked, links⟩ := exists_mapM_iff.2 fun routine member =>
      exists_link_iff.2 fun symbol named =>
        (exists_resolve_iff plan).2 (known routine member symbol named)
    exact ⟨_, bind_eq_ok.2 ⟨planned, plan, bind_eq_ok.2 ⟨linked, links, rfl⟩⟩⟩

end Load

/-! ### Histories -/

inductive Change (ν : Type) where
  | install (callable : Callable ν)
  | load (classes : Classes) (program : Program)

/-- The library after a change. A program that does not load changes nothing. -/
def after (library : Library ν) : Change ν → Library ν
  | .install callable => (library.install callable).2
  | .load classes program =>
    match library.load classes program with
    | .ok loaded => loaded.library
    | .error _ => library

def afterAll (library : Library ν) (changes : List (Change ν)) : Library ν :=
  changes.foldl after library

theorem after_load_of_ok {library : Library ν} {classes : Classes} {program : Program}
    {loaded : Loaded ν} (load : library.load classes program = .ok loaded) :
    library.after (.load classes program) = loaded.library := by
  simp only [after, load]

theorem after_load_of_error {library : Library ν} {classes : Classes} {program : Program}
    {fault : Fault} (load : library.load classes program = .error fault) :
    library.after (.load classes program) = library := by
  simp only [after, load]

theorem Later.after (library : Library ν) (change : Change ν) :
    Later library (library.after change) := by
  cases change with
  | install callable => exact Later.install library callable
  | load classes program =>
    cases load : library.load classes program with
    | ok loaded =>
      obtain ⟨_, linked, -, -, into, -⟩ := load_eq_ok load
      rw [after_load_of_ok load, into]
      exact Later.installAll library linked
    | error fault =>
      rw [after_load_of_error load]
      exact Later.refl library

theorem Later.afterAll (library : Library ν) (changes : List (Change ν)) :
    Later library (library.afterAll changes) := by
  induction changes generalizing library with
  | nil => exact Later.refl library
  | cons change rest ih => exact (Later.after library change).trans (ih _)

theorem afterAll_append (library : Library ν) (first second : List (Change ν)) :
    library.afterAll (first ++ second) = (library.afterAll first).afterAll second :=
  List.foldl_append

/-- Over every history of a library that ends with numbers left: a name has a number exactly if an
entry with that number has the name up to case, and keeps it; loading fails exactly on clashing
names and unknown symbols and then changes nothing; a program that loads is installed under the
numbers planned for it, changes no other entry, and its function symbols stand for the functions
they name from then on. -/
theorem numbers_kept_by_history (changes : List (Change ν))
    (few : (empty.afterAll changes).Small) :
    (∀ name id, (empty.afterAll changes).find? name = some id ↔
      ∃ entry, (empty.afterAll changes).get id = .ok entry ∧ fold entry.name = fold name) ∧
    ∀ earlier later, changes = earlier ++ later →
      (∀ name id, (empty.afterAll earlier).find? name = some id →
        (empty.afterAll changes).find? name = some id) ∧
      ∀ classes program rest, later = .load classes program :: rest →
        ((∃ loaded, (empty.afterAll earlier).load classes program = .ok loaded) ↔
          (program.routines.map (fold ·.name)).Nodup ∧
            ∀ routine ∈ program.routines, ∀ symbol ∈ routine.pointers,
              (empty.afterAll earlier).Known classes program.routines symbol) ∧
        (∀ fault, (empty.afterAll earlier).load classes program = .error fault →
          empty.afterAll (earlier ++ [.load classes program]) = empty.afterAll earlier) ∧
        ∀ loaded, (empty.afterAll earlier).load classes program = .ok loaded →
          empty.afterAll (earlier ++ [.load classes program]) = loaded.library ∧
          ∃ linked, (empty.afterAll earlier).Loads classes program linked loaded ∧
            List.Forall₂ loaded.library.FunctionsMeant program.routines linked ∧
            List.Forall₂ (empty.afterAll changes).FunctionsMeant program.routines linked := by
  refine ⟨fun name id => ?_, ?_⟩
  · have distinct := (Later.afterAll empty changes).distinct few distinct_empty
    exact distinct.find?_eq_some_iff few
  rintro earlier later rfl
  rw [afterAll_append] at few ⊢
  refine ⟨(Later.afterAll _ later).numbers few, ?_⟩
  rintro classes program rest rfl
  refine ⟨exists_load_iff, fun fault load => ?_, fun loaded load => ?_⟩
  · rw [afterAll_append]
    exact after_load_of_error load
  · have into : (empty.afterAll earlier).afterAll (.load classes program :: rest) =
        loaded.library.afterAll rest := by
      rw [← after_load_of_ok load]
      rfl
    rw [into] at few ⊢
    have later := Later.afterAll loaded.library rest
    obtain ⟨linked, loads⟩ := loads_of_load (later.small few) load
    refine ⟨?_, linked, loads, loads.functionsMeant (.refl _) (later.small few),
      loads.functionsMeant later few⟩
    rw [afterAll_append]
    exact after_load_of_ok load

/-- A native function and two routines that refer to it and to each other, then a program that
refers to nothing known and one that replaces the native function. -/
theorem numbers_kept_by_history_reloads :
    let first : Routine := { Routine.empty "Ping" "" with pointers := #[.function "pong", .function "LOG"] }
    let second : Routine := { Routine.empty "Pong" "" with pointers := #[.function "ping"] }
    let broken : Routine := { Routine.empty "ping" "" with pointers := #[.function "lost"] }
    let earlier : List (Change Unit) := [.install (.native "log" ())]
    let rest : List (Change Unit) :=
      [.load .empty ⟨[broken]⟩, .load .empty ⟨[Routine.empty "LOG" "", second]⟩]
    (empty.afterAll (earlier ++ .load .empty ⟨[first, second]⟩ :: rest)).Small ∧
      ∃ loaded linked, (empty.afterAll earlier).load .empty ⟨[first, second]⟩ = .ok loaded ∧
        (empty.afterAll earlier).Loads .empty ⟨[first, second]⟩ linked loaded ∧
        List.Forall₂
          (empty.afterAll (earlier ++ .load .empty ⟨[first, second]⟩ :: rest)).FunctionsMeant
          [first, second] linked := by
  intro first second broken earlier rest
  have few : (empty.afterAll (earlier ++ .load .empty ⟨[first, second]⟩ :: rest)).Small := by
    unfold Small
    decide +kernel
  have loadable : ((empty.afterAll earlier).load .empty ⟨[first, second]⟩).isOk = true := by
    decide +kernel
  obtain ⟨-, split⟩ := numbers_kept_by_history _ few
  obtain ⟨-, loads⟩ := split earlier _ rfl
  cases load : (empty.afterAll earlier).load .empty ⟨[first, second]⟩ with
  | error fault =>
    rw [load] at loadable
    cases loadable
  | ok loaded =>
    obtain ⟨-, linked, loads, -, meant⟩ := (loads .empty _ rest rfl).2.2 loaded load
    exact ⟨few, loaded, linked, rfl, loads, meant⟩

end Library
end GameScript
