import GameScript.Proofs.AbortAtomicity
import GameScript.Proofs.LibraryNumbers
import GameScript.Proofs.RegisterUse

/-! The numbers of names. Whatever is interned, a spelling stays in its place, and no two places hold
the same name up to case. So a name has one number from the first call for it on, the number leads to
the first spelling, and every number that there is belongs to one name. -/

namespace GameScript.Names

open Text Library

variable {names after : Names} {name other spelling : String} {place index : Nat} {id : Int32}
  {calls : List String}

def named (text : String) : String := if text.isEmpty then "None" else text

def history (calls : List String) : Names := calls.foldl (fun names name => (names.intern name).2) .empty

def At (names : Names) (place : Nat) (name : String) : Prop :=
  ∃ spelling, names.spellings[place]? = some spelling ∧ fold spelling = fold (named name)

/-- The table begins with the name for none, and has no name twice. -/
structure Proper (names : Names) : Prop where
  none : names.spellings[0]? = some "None"
  distinct : ∀ {first second : Nat} {one other : String}, names.spellings[first]? = some one →
    names.spellings[second]? = some other → fold one = fold other → first = second
  solid : ∀ spelling ∈ names.spellings, named spelling = spelling

inductive Interns (names : Names) (name : String) : Int32 × Names → Prop where
  | known {place : Nat} (there : names.At place name) : Interns names name (Int32.ofNat place, names)
  | new (named : named name = name) (fresh : ∀ place, ¬names.At place name) :
    Interns names name (Int32.ofNat names.size, ⟨names.spellings.push name⟩)

theorem Proper.empty : Proper .empty where
  none := rfl
  distinct {first second one other} left right same := by
    have only {place : Nat} {text : String} (found : #["None"][place]? = some text) : place = 0 := by
      have inside := (Array.getElem?_eq_some_iff.1 found).1
      exact Nat.lt_one_iff.1 inside
    rw [only left, only right]
  solid spelling member := by
    rw [List.mem_singleton.1 (Array.mem_toList_iff.2 member)]
    rfl

theorem Proper.interns (proper : names.Proper) (name : String) :
    names.Interns name (names.intern name) := by
  unfold intern
  split
  next empty =>
    have there : names.At 0 name := ⟨"None", proper.none, by rw [named, if_pos empty]⟩
    exact .known there
  next solid =>
    have self : named name = name := if_neg solid
    split
    next id found =>
      obtain ⟨place, first, rfl⟩ := Option.map_eq_some_iff.1 found
      obtain ⟨inside, same, -⟩ := Array.findIdx?_eq_some_iff_getElem.1 first
      refine .known ⟨_, Array.getElem?_eq_getElem inside, ?_⟩
      rw [self]
      exact beq_iff_eq.1 same
    next missing =>
      refine .new self ?_
      rintro place ⟨spelling, held, same⟩
      have differs := Array.findIdx?_eq_none_iff.1 (Option.map_eq_none_iff.1 missing) spelling
        (Array.mem_of_getElem? held)
      rw [self] at same
      exact absurd (beq_iff_eq.2 same) (by simpa [sameFold] using differs)

/-! ### One call -/

section Call

variable {result : Int32 × Names}

theorem Interns.keeps (interns : names.Interns name result)
    (held : names.spellings[place]? = some spelling) :
    result.2.spellings[place]? = some spelling := by
  cases interns with
  | known there => exact held
  | new named fresh =>
    have inside := (Array.getElem?_eq_some_iff.1 held).1
    rw [Array.getElem?_push, if_neg inside.ne, held]

theorem Interns.at (interns : names.Interns name result) :
    ∃ place, result.1 = Int32.ofNat place ∧ result.2.At place name := by
  cases interns with
  | known there => exact ⟨_, rfl, there⟩
  | new self fresh => exact ⟨_, rfl, name, Array.getElem?_push_size, by rw [self]⟩

theorem Interns.proper (proper : names.Proper) (interns : names.Interns name result) :
    result.2.Proper := by
  cases interns with
  | known there => exact proper
  | new self fresh =>
    have old {place : Nat} {text : String} (held : names.spellings[place]? = some text)
        (same : fold text = fold name) : False :=
      fresh place ⟨text, held, by rw [same, self]⟩
    refine ⟨?_, fun {first second one other} left right same => ?_, fun spelling member => ?_⟩
    · exact (Interns.new self fresh).keeps proper.none
    · rw [Array.getElem?_push] at left right
      split at left <;> split at right
      next one two => rw [one, two]
      next =>
        cases left
        exact (old right same.symm).elim
      next =>
        cases right
        exact (old left same).elim
      next => exact proper.distinct left right same
    · rcases Array.mem_push.1 member with known | rfl
      · exact proper.solid spelling known
      · exact self

theorem At.place_eq_iff (proper : names.Proper) (one : names.At place name)
    (two : names.At index other) : place = index ↔ fold (named name) = fold (named other) := by
  obtain ⟨first, left, same⟩ := one
  obtain ⟨second, right, alike⟩ := two
  constructor
  · rintro rfl
    cases left.symm.trans right
    exact same.symm.trans alike
  · intro equal
    exact proper.distinct left right (same.trans (equal.trans alike.symm))

theorem At.lt_size (there : names.At place name) : place < names.size := by
  obtain ⟨_, held, -⟩ := there
  exact (Array.getElem?_eq_some_iff.1 held).1

end Call

/-! ### Numbers -/

theorem toInt_ofNat_place (few : names.size ≤ 2 ^ 31) (inside : place < names.size) :
    (Int32.ofNat place).toInt = place :=
  Int32.toInt_ofNat_of_lt (inside.trans_le few)

theorem ofNat_place_inj (few : names.size ≤ 2 ^ 31) (one : place < names.size)
    (two : index < names.size) : Int32.ofNat place = Int32.ofNat index ↔ place = index := by
  rw [← Int32.toInt_inj, toInt_ofNat_place few one, toInt_ofNat_place few two, Int.ofNat_inj]

theorem get?_ofNat (few : names.size ≤ 2 ^ 31) (inside : place < names.size) :
    names.get? (Int32.ofNat place) = names.spellings[place]? := by
  rw [get?, toInt_ofNat_place few inside, if_pos (Int.natCast_nonneg _), Int.toNat_natCast]

/-! ### Many calls -/

theorem history_append (before after : List String) :
    history (before ++ after) =
      after.foldl (fun names name => (names.intern name).2) (history before) :=
  List.foldl_append

theorem history_concat (calls : List String) (name : String) :
    history (calls ++ [name]) = ((history calls).intern name).2 := history_append calls [name]

theorem proper_history (calls : List String) : (history calls).Proper :=
  List.foldlRecOn calls _ Proper.empty fun _ proper name _ => (proper.interns name).proper proper

theorem history_keeps {before : List String} (more : List String)
    (held : (history before).spellings[place]? = some spelling) :
    (history (before ++ more)).spellings[place]? = some spelling := by
  induction more generalizing before with
  | nil => rwa [List.append_nil]
  | cons name more ih =>
    rw [List.append_cons]
    refine ih ?_
    rw [history_concat]
    exact ((proper_history before).interns name).keeps held

/-- A call for a name gave it a number. -/
def Issued (calls : List String) (name : String) (id : Int32) : Prop :=
  ∃ before more, calls = before ++ name :: more ∧ ((history before).intern name).1 = id

theorem Issued.at (issued : Issued calls name id) :
    ∃ place, id = Int32.ofNat place ∧ (history calls).At place name := by
  obtain ⟨before, more, rfl, rfl⟩ := issued
  obtain ⟨place, number, spelling, held, same⟩ := ((proper_history before).interns name).at
  refine ⟨place, number, spelling, ?_, same⟩
  rw [List.append_cons]
  exact history_keeps more (by rwa [history_concat])

theorem fold_empty : fold "" = "" := rfl

theorem fold_eq_empty {text : String} (empty : fold text = "") : text = "" := by
  have chars := congrArg String.toList empty
  rw [fold, String.toList_ofList] at chars
  exact String.toList_eq_nil_iff.1 (List.map_eq_nil_iff.1 chars)

theorem fold_named_ne_empty (name : String) : fold (named name) ≠ "" := by
  intro empty
  have blank := fold_eq_empty empty
  unfold named at blank
  split at blank
  next => exact absurd blank (by decide)
  next solid => exact solid (by simp [blank])

def spelled (texts : List String) (name : String) : Option String :=
  texts.find? fun text => sameFold text (named name)

theorem spelled_append (texts more : List String) (name : String) :
    spelled (texts ++ more) name = (spelled texts name).or (spelled more name) := List.find?_append

/-- The one spelling of a name in a table is the first. -/
theorem At.spelled (proper : names.Proper) (there : names.At place name) :
    spelled names.spellings.toList name = names.spellings[place]? := by
  obtain ⟨spelling, held, same⟩ := there
  rw [held, Names.spelled]
  cases found : names.spellings.toList.find? fun text => sameFold text (named name) with
  | none =>
    have missing := List.find?_eq_none.1 found spelling
      (Array.mem_toList_iff.2 (Array.mem_of_getElem? held))
    exact absurd (sameFold_iff.2 same) missing
  | some text =>
    obtain ⟨index, inside, rfl⟩ := Array.mem_iff_getElem.1
      (Array.mem_toList_iff.1 (List.mem_of_find?_eq_some found))
    have alike := List.find?_some found
    have here := Array.getElem?_eq_getElem inside
    cases proper.distinct here held ((sameFold_iff.1 alike).trans same.symm)
    exact here.symm.trans held

/-- The table holds the first spelling of every name that was called for. -/
theorem spelled_history (calls : List String) (name : String) :
    spelled (history calls).spellings.toList name = spelled ("None" :: calls) name := by
  induction calls using List.reverseRecOn with
  | nil => rfl
  | append_singleton calls called ih =>
    have proper := proper_history calls
    have interns := proper.interns called
    rw [history_concat, ← List.cons_append, spelled_append, ← ih]
    generalize (history calls).intern called = result at interns
    cases interns with
    | new self fresh => rw [Array.toList_push, spelled_append]
    | known there =>
      cases found : spelled [called] name with
      | none => rw [Option.or_none]
      | some text =>
        unfold spelled at found
        obtain rfl := List.mem_singleton.1 (List.mem_of_find?_eq_some found)
        have alike := List.find?_some found
        have same := sameFold_iff.1 alike
        have solid : named text = text := by
          refine if_neg fun empty => fold_named_ne_empty name ?_
          rw [← same, String.isEmpty_iff.1 empty, fold_empty]
        obtain ⟨spelling, held, kept⟩ := there
        have old : (history calls).At _ name := ⟨spelling, held, by rw [kept, solid, same]⟩
        rw [old.spelled proper, held, Option.some_or]

theorem Issued.get?_spelled (issued : Issued calls name id) :
    ∃ spelling, spelled ("None" :: calls) name = some spelling ∧
      ∀ more, (history (calls ++ more)).size ≤ 2 ^ 31 →
        (history (calls ++ more)).get? id = some spelling := by
  obtain ⟨place, rfl, there⟩ := issued.at
  have first := there.spelled (proper_history calls)
  obtain ⟨spelling, held, same⟩ := there
  refine ⟨spelling, by rw [← spelled_history, first, held], fun more few => ?_⟩
  have kept := history_keeps more held
  rw [get?_ofNat few (Array.getElem?_eq_some_iff.1 kept).1, kept]

theorem Issued.eq_iff {number : Int32} (few : (history calls).size ≤ 2 ^ 31)
    (one : Issued calls name id) (two : Issued calls other number) :
    id = number ↔ fold (named name) = fold (named other) := by
  obtain ⟨place, rfl, left⟩ := one.at
  obtain ⟨index, rfl, right⟩ := two.at
  rw [ofNat_place_inj few left.lt_size right.lt_size, left.place_eq_iff (proper_history calls) right]

/-- A number belongs to the one name whose spelling is in its place. -/
theorem intern_eq_iff (proper : names.Proper) (few : names.size ≤ 2 ^ 31)
    (there : names.At place name) (text : String) :
    (names.intern text).1 = Int32.ofNat place ↔ fold (named text) = fold (named name) := by
  have interns := proper.interns text
  generalize names.intern text = result at interns
  cases interns with
  | known here => rw [ofNat_place_inj few here.lt_size there.lt_size, here.place_eq_iff proper there]
  | new self fresh =>
    obtain ⟨spelling, held, same⟩ := there
    have inside := (Array.getElem?_eq_some_iff.1 held).1
    refine iff_of_false (fun equal => ?_) fun alike => fresh place ⟨spelling, held, same.trans alike.symm⟩
    have number := congrArg Int32.toInt equal
    rw [Int32.toInt_ofNat', Int32.toInt_ofNat'] at number
    have wrapped : (names.size : Int) % Int32.size = place % Int32.size := by
      rw [← Int.bmod_emod, number, Int.bmod_emod]
    rw [show Int32.size = 2 ^ 32 from rfl] at wrapped
    change place < names.size at inside
    omega

theorem get?_eq_none_iff {names : Names} {id : Int32} :
    names.get? id = none ↔ ¬(0 ≤ id.toInt ∧ id.toInt < names.size) := by
  unfold get?
  split
  next nonneg =>
    rw [Array.getElem?_eq_none_iff, size]
    omega
  next negative => simp [negative]

/-- A place in the table is the number of a name that was called for, and of no other name. -/
theorem exists_name_of_place (few : (history calls).size ≤ 2 ^ 31)
    (inside : 0 ≤ id.toInt ∧ id.toInt < (history calls).size) :
    ∃ name ∈ "None" :: calls, ∀ text,
      ((history calls).intern text).1 = id ↔ fold (named text) = fold (named name) := by
  have proper := proper_history calls
  obtain ⟨place, number⟩ := Int.eq_ofNat_of_zero_le inside.1
  have within : place < (history calls).size := by omega
  have held := Array.getElem?_eq_getElem within
  have there : (history calls).At place (history calls).spellings[place] :=
    ⟨_, held, by rw [proper.solid _ (Array.getElem_mem within)]⟩
  have first := there.spelled proper
  rw [spelled_history, held] at first
  have same : id = Int32.ofNat place :=
    Int32.toInt_inj.1 (number.trans (toInt_ofNat_place few within).symm)
  exact ⟨_, List.mem_of_find?_eq_some first, fun text => same ▸ intern_eq_iff proper few there text⟩

/-! ### Looking up -/

theorem find?_empty (proper : names.Proper) : names.find? "" = none := by
  refine Option.map_eq_none_iff.2 (Array.findIdx?_eq_none_iff.2 fun spelling member => ?_)
  refine Bool.eq_false_iff.2 fun same => fold_named_ne_empty spelling ?_
  rw [proper.solid spelling member, sameFold_iff.1 same, fold_empty]

theorem intern_of_found (solid : name ≠ "") (found : names.find? name = some id) :
    names.intern name = (id, names) := by
  rw [intern, if_neg (by simpa using solid), found]

theorem intern_of_missing (solid : name ≠ "") (missing : names.find? name = none) :
    names.intern name = (Int32.ofNat names.size, ⟨names.spellings.push name⟩) := by
  rw [intern, if_neg (by simpa using solid), missing]

/-- A call that adds nothing gives what looking the name up gives. -/
theorem find?_eq_some_iff (proper : names.Proper) : names.find? name = some id ↔
    name ≠ "" ∧ (names.intern name).1 = id ∧ (names.intern name).2.size = names.size := by
  by_cases empty : name = ""
  · rw [empty, find?_empty proper]
    simp
  cases found : names.find? name with
  | some number => simp [intern_of_found empty found, empty]
  | none => simp [intern_of_missing empty found, size]

theorem history_none (calls : List String) : history ("None" :: calls) = history calls := by
  have known : (Names.empty.intern "None").2 = .empty := by decide +kernel
  rw [history, List.foldl_cons, known, history]

/-- A place in the table was given by a call for the name that stands there. -/
theorem At.issued (there : (history calls).At place name) :
    ∃ known, fold (named known) = fold (named name) ∧
      Issued ("None" :: calls) known (Int32.ofNat place) := by
  have proper := proper_history calls
  have first := there.spelled proper
  obtain ⟨spelling, held, same⟩ := there
  rw [held, spelled_history] at first
  obtain ⟨before, more, split⟩ := List.append_of_mem (List.mem_of_find?_eq_some first)
  have solid := proper.solid spelling (Array.mem_of_getElem? held)
  have issued : Issued ("None" :: calls) spelling _ := ⟨before, more, split, rfl⟩
  obtain ⟨other, number, here⟩ := issued.at
  rw [history_none] at here
  have equal : other = place :=
    (here.place_eq_iff proper ⟨spelling, held, same⟩).2 (by rw [solid, same])
  rw [number, equal] at issued
  exact ⟨spelling, by rw [solid, same], issued⟩

/-- What is found is what a call for the name has given, in whatever case. -/
theorem find?_eq_some_iff_issued : (history calls).find? name = some id ↔
    name ≠ "" ∧ ∃ known, fold (named known) = fold name ∧ Issued ("None" :: calls) known id := by
  have proper := proper_history calls
  have interns := proper.interns name
  rw [find?_eq_some_iff proper]
  refine and_congr_right fun solid => ?_
  have self : named name = name := if_neg (by simpa using solid)
  constructor
  · rintro ⟨rfl, same⟩
    generalize (history calls).intern name = result at interns same
    cases interns with
    | known there =>
      obtain ⟨known, alike, issued⟩ := there.issued
      exact ⟨known, alike.trans (by rw [self]), issued⟩
    | new _ fresh => simp [size] at same
  · rintro ⟨known, alike, issued⟩
    obtain ⟨place, rfl, there⟩ := issued.at
    rw [history_none] at there
    obtain ⟨spelling, held, same⟩ := there
    have here : (history calls).At place name := ⟨spelling, held, by rw [same, alike, self]⟩
    generalize (history calls).intern name = result at interns
    cases interns with
    | known found => exact ⟨by rw [(found.place_eq_iff proper here).2 rfl], rfl⟩
    | new _ fresh => exact absurd here (fresh place)

/-- After any calls for names, looking a name up gives a number exactly if a call for the name would
give that number and add nothing. Only the empty name makes a difference: a call gives it the number of
none, and looking it up finds nothing. What is found is a number that a call has given. -/
theorem lookup_agrees_with_intern (calls : List String) (name : String) (id : Int32) :
    let table := history calls
    ((table.find? name = some id ↔
        (table.intern name).1 = id ∧ (table.intern name).2.size = table.size) ↔
      ¬(name = "" ∧ id = 0)) ∧
    (table.find? name = some id ↔
      name ≠ "" ∧ ∃ known, fold (named known) = fold name ∧ Issued ("None" :: calls) known id) := by
  intro table
  refine ⟨?_, find?_eq_some_iff_issued⟩
  rw [find?_eq_some_iff (proper_history calls)]
  by_cases empty : name = ""
  · have none : table.intern name = (0, table) := if_pos (by simp [empty])
    simp [empty ▸ none, empty, eq_comm]
  · simp [table, empty]

/-- The empty name has a number that looking it up does not give. -/
theorem empty_name_not_found :
    (history []).find? "" = none ∧ (history []).intern "" = (0, history []) := by
  decide +kernel

end GameScript.Names

namespace GameScript.Action

open Names Text

variable {state : Local} {w : Word}

theorem cast_stringToName_apply {text : String} (coded : Conversion.ofCode w.c = .ok .stringToName)
    (held : state.frame.registers.register .string w.b.toNat = .ok text) :
    cast w state = setRegister .int w.a.toNat (state.world.names.intern text).1
      { state with world := { state.world with names := (state.world.names.intern text).2 } } := by
  rw [cast_stringToName coded]
  simp only [bind_apply, register_apply, held, ofExcept_ok, intern, get_apply, setWorld_apply,
    pure_apply]

theorem cast_nameToString_apply {id : Int32} {name : String}
    (coded : Conversion.ofCode w.c = .ok .nameToString)
    (held : state.frame.registers.register .int w.b.toNat = .ok id)
    (found : state.world.names.get? id = some name) :
    cast w state = setRegister .string w.a.toNat name state := by
  simp only [cast, bind_apply, coded, Fault.ofSelector, Except.mapError, ofExcept_ok, register_apply,
    held, get_apply, found]

/-- After any calls for names, two of them got one number exactly if they are for one name up to case.
The number leads to the first spelling from then on, also from a script. Each place in the table is the
number of one name, and no other number leads anywhere. -/
theorem names_keep_numbers (calls : List String) (few : (history calls).size ≤ 2 ^ 31) :
    (∀ name other id number, Issued calls name id → Issued calls other number →
      (id = number ↔ fold (named name) = fold (named other))) ∧
    (∀ name id, Issued calls name id → ∃ spelling, spelled ("None" :: calls) name = some spelling ∧
      ∀ more, (history (calls ++ more)).size ≤ 2 ^ 31 →
        (history (calls ++ more)).get? id = some spelling) ∧
    (∀ id : Int32, 0 ≤ id.toInt ∧ id.toInt < (history calls).size →
      ∃ name ∈ "None" :: calls, ∀ text,
        ((history calls).intern text).1 = id ↔ fold (named text) = fold (named name)) ∧
    (∀ id : Int32, (history calls).get? id = none ↔
      ¬(0 ≤ id.toInt ∧ id.toInt < (history calls).size)) ∧
    ∀ text w (state : Local), state.world.names = history calls →
      Conversion.ofCode w.c = .ok .stringToName →
      state.frame.registers.register .string w.b.toNat = .ok text →
      ∃ id name, fold name = fold (named text) ∧ Issued (calls ++ [text]) text id ∧
        cast w state = setRegister .int w.a.toNat id
          { state with world := { state.world with names := history (calls ++ [text]) } } ∧
        ∀ more u (later : Local), (history (calls ++ text :: more)).size ≤ 2 ^ 31 →
          later.world.names = history (calls ++ text :: more) →
          Conversion.ofCode u.c = .ok .nameToString →
          later.frame.registers.register .int u.b.toNat = .ok id →
          cast u later = setRegister .string u.a.toNat name later := by
  refine ⟨fun name other id number one two => one.eq_iff few two,
    fun name id issued => issued.get?_spelled, fun id inside => exists_name_of_place few inside,
    fun id => get?_eq_none_iff, fun text w state table coded held => ?_⟩
  have issued : Issued (calls ++ [text]) text ((history calls).intern text).1 :=
    ⟨calls, [], rfl, rfl⟩
  obtain ⟨name, first, leads⟩ := issued.get?_spelled
  unfold spelled at first
  have same := List.find?_some first
  refine ⟨_, name, Library.sameFold_iff.1 same, issued, ?_, fun more u later fits names reads number => ?_⟩
  · rw [cast_stringToName_apply coded held, table, history_concat]
  · rw [List.append_cons] at fits names
    exact cast_nameToString_apply reads number (names ▸ leads more fits)

def naming (names : Names) (text : String) (id : Int32) : Local where
  frame := .holding ⟨#[id], #[], #[text], #[]⟩
  world := { World.empty with names }

/-- Two spellings of one name, with the empty name and another name between them. -/
theorem names_keep_numbers_fire :
    let calls := ["Fire", "", "ice"]
    let table := history calls
    (history calls).size ≤ 2 ^ 31 ∧ Issued calls "Fire" 1 ∧
      table.get? 1 = some "Fire" ∧ table.get? (-1) = none ∧
      ∃ id name, fold name = fold "FIRE" ∧
        cast ⟨0x0c000000⟩ (naming table "FIRE" 0) = setRegister .int 0 id (naming table "FIRE" 0) ∧
        cast ⟨0x0d000000⟩ (naming table "" id) = setRegister .string 0 name (naming table "" id) := by
  intro calls table
  have few : (history calls).size ≤ 2 ^ 31 := by decide +kernel
  have issued : Issued calls "Fire" 1 := ⟨[], ["", "ice"], rfl, by decide +kernel⟩
  obtain ⟨-, leads, -, outside, casts⟩ := names_keep_numbers calls few
  obtain ⟨spelling, first, kept⟩ := leads "Fire" 1 issued
  obtain ⟨id, name, same, -, stores, shows⟩ := casts "FIRE" ⟨0x0c000000⟩ (naming table "FIRE" 0) rfl rfl rfl
  have again : history (calls ++ ["FIRE"]) = table := by decide +kernel
  have found : table.get? 1 = some "Fire" := by
    rw [← show spelled ("None" :: calls) "Fire" = some "Fire" by decide +kernel, first]
    exact kept [] few
  rw [again] at stores
  exact ⟨few, issued, found, (outside (-1)).2 (by decide), id, name, same, stores,
    shows [] ⟨0x0d000000⟩ (naming table "" id) (again ▸ few) again.symm rfl rfl⟩

end GameScript.Action
