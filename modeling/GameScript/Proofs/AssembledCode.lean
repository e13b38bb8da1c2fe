import GameScript.Assembly.Source
import GameScript.Proofs.DecodedOperands
import GameScript.Proofs.OperandMeaning

/-! From the lines of assembly text to the code of routines. The text falls into functions, a
function into lines with labels and instructions; a routine has one word for each instruction of its
function, and the word means what the line says. -/

namespace GameScript

namespace Assembly

inductive Line where
  | blank
  | directive (name : String) (arguments : List Token)
  | code (label : Option String) (instruction : Option (Token × List Token))

namespace Line

def instructionOf : List Token → Option (Token × List Token)
  | [] => none
  | mnemonic :: operands => some (mnemonic, operands)

def ofTokens : List Token → Line
  | [] => .blank
  | first :: rest =>
    match first.text.toList with
    | '.' :: name => .directive (Text.fold (String.ofList name)) rest
    | _ =>
      match labelName? first.text with
      | some name => .code (some name) (instructionOf rest)
      | none => .code none (some (first, rest))

theorem ofTokens_of_plain {first : Token} {rest : List Token}
    (plain : ∀ name, first.text.toList ≠ '.' :: name) :
    ofTokens (first :: rest) =
      match labelName? first.text with
      | some name => .code (some name) (instructionOf rest)
      | none => .code none (some (first, rest)) := by
  simp only [ofTokens]

def of (text : String) : Line := ofTokens (Scan.start.run text.toList).close.done.reverse

def opens? : Line → Option String
  | .directive name [token] => if name == "func" then some token.text else none
  | _ => none

def closes : Line → Bool
  | .directive name _ => name == "end"
  | _ => false

def label? : Line → Option String
  | .code label _ => label
  | _ => none

def instruction? : Line → Option (Token × List Token)
  | .code _ instruction => instruction
  | _ => none

def numbering? : Line → Option UInt32
  | .directive name arguments =>
    if name == "line" then (directiveNumber name arguments).toOption else none
  | _ => none

end Line

structure Listing where
  name : String
  lines : List Line

namespace Listing

def instructions (listing : Listing) : List (Token × List Token) :=
  listing.lines.filterMap Line.instruction?

def At (listing : Listing) (place : Nat) (instruction : Instruction) (operands : List Token) : Prop :=
  ∃ mnemonic, listing.instructions[place]? = some (mnemonic, operands) ∧
    Instruction.ofMnemonic? mnemonic.text = some instruction

/-- A label is for the next instruction, so its number is how many there are before it. -/
def Labels (listing : Listing) (name : String) (target : Nat) : Prop :=
  ∃ before line after, listing.lines = before ++ line :: after ∧ line.label? = some name ∧
    target = (before.filterMap Line.instruction?).length

def add (listing : Listing) (line : Line) : Listing :=
  { listing with lines := listing.lines ++ [line] }

theorem instructions_add (listing : Listing) (line : Line) :
    (listing.add line).instructions = listing.instructions ++ line.instruction?.toList := by
  rw [instructions, add, List.filterMap_append, instructions]
  cases found : line.instruction? <;> simp [found]

/-- A line of a listing that one was added to is one that was there or the one added. -/
theorem add_lines_eq_iff {listing : Listing} {line own : Line} {before after : List Line} :
    (listing.add line).lines = before ++ own :: after ↔
      (∃ rest, after = rest ++ [line] ∧ listing.lines = before ++ own :: rest) ∨
        after = [] ∧ before = listing.lines ∧ own = line := by
  constructor
  · intro split
    rcases List.eq_nil_or_concat after with rfl | ⟨rest, last, rfl⟩
    · obtain ⟨rfl, same⟩ := List.append_inj' split rfl
      cases same
      exact .inr ⟨rfl, rfl, rfl⟩
    · rw [List.concat_eq_append, ← List.cons_append, ← List.append_assoc] at split
      obtain ⟨lines, same⟩ := List.append_inj' split rfl
      cases same
      exact .inl ⟨rest, List.concat_eq_append, lines⟩
  · rintro (⟨rest, rfl, lines⟩ | ⟨rfl, rfl, rfl⟩)
    · rw [add, lines, List.append_assoc, List.cons_append]
    · rfl

/-- The label of a line added last is for the instruction after those there are. -/
theorem labels_add {listing : Listing} {line : Line} {name : String} {target : Nat} :
    (listing.add line).Labels name target ↔ listing.Labels name target ∨
      line.label? = some name ∧ target = listing.instructions.length := by
  constructor
  · rintro ⟨before, own, after, split, labelled, counted⟩
    rcases add_lines_eq_iff.1 split with ⟨rest, rfl, lines⟩ | ⟨rfl, rfl, rfl⟩
    · exact .inl ⟨before, own, rest, lines, labelled, counted⟩
    · exact .inr ⟨labelled, counted⟩
  · rintro (⟨before, own, after, lines, labelled, counted⟩ | ⟨labelled, rfl⟩)
    · exact ⟨before, own, after ++ [line], add_lines_eq_iff.2 (.inl ⟨after, rfl, lines⟩), labelled,
        counted⟩
    · exact ⟨listing.lines, line, [], rfl, labelled, rfl⟩

theorem Labels.le {listing : Listing} {name : String} {target : Nat}
    (defined : listing.Labels name target) : target ≤ listing.instructions.length := by
  obtain ⟨before, own, after, split, -, rfl⟩ := defined
  rw [instructions, split, List.filterMap_append, List.length_append]
  exact Nat.le_add_right _ _

/-- The functions in the lines that are left, where one may be open. -/
def collect (current : Option Listing) : List Line → List Listing
  | [] => []
  | line :: rest =>
    match current with
    | none => collect (line.opens?.map (⟨·, []⟩)) rest
    | some listing =>
      if line.closes then listing :: collect none rest else collect (some (listing.add line)) rest

def ofSource (source : String) : List Listing := collect none ((Text.lines source).map Line.of)

end Listing

/-- A routine has the name of a function, and for each instruction of it the word that says the
same. -/
structure Assembles (listing : Listing) (routine : Routine) : Prop where
  name : routine.name = listing.name
  size : routine.code.size = listing.instructions.length
  words : ∀ (place : Nat) mnemonic operands,
    listing.instructions[place]? = some (mnemonic, operands) →
    ∃ instruction word, Instruction.ofMnemonic? mnemonic.text = some instruction ∧
      routine.code[place]? = some word ∧ word.instruction place = .ok instruction ∧
      EncodedAs routine.resources listing.Labels place instruction operands word

namespace Assembles

variable {listing : Listing} {routine : Routine} {place : Nat}

theorem code_of_at (assembles : Assembles listing routine)
    (written : listing.At place instruction operands) :
    ∃ word, routine.code[place]? = some word ∧
      Instruction.ofOpcode? word.opcode = some instruction ∧
      EncodedAs routine.resources listing.Labels place instruction operands word := by
  obtain ⟨mnemonic, listed, known⟩ := written
  obtain ⟨other, word, found, there, -, encoded⟩ := assembles.words place mnemonic operands listed
  obtain rfl : other = instruction := Option.some.inj (found.symm.trans known)
  refine ⟨word, there, ?_, encoded⟩
  rw [encoded.opcode, Instruction.ofOpcode?_of_ofMnemonic? found]

/-- Every word of a routine was written. -/
theorem at_of_code (assembles : Assembles listing routine) {word : Word}
    (located : routine.code[place]? = some word) :
    ∃ instruction operands, listing.At place instruction operands ∧
      Instruction.ofOpcode? word.opcode = some instruction := by
  have inside : place < listing.instructions.length := by
    rw [← assembles.size]
    exact (Array.getElem?_eq_some_iff.1 located).1
  obtain ⟨⟨mnemonic, operands⟩, listed⟩ :
      ∃ written, listing.instructions[place]? = some written := ⟨_, List.getElem?_eq_getElem inside⟩
  obtain ⟨instruction, other, found, there, -, encoded⟩ :=
    assembles.words place mnemonic operands listed
  obtain rfl : other = word := Option.some.inj (there.symm.trans located)
  refine ⟨instruction, operands, ⟨mnemonic, listed, found⟩, ?_⟩
  rw [encoded.opcode, Instruction.ofOpcode?_of_ofMnemonic? found]

end Assembles

namespace Draft

variable {draft after : Draft} {listing : Listing} {line : Nat}

theorem encodeFrom_encodes {place : Nat} {code codeAfter : Array Word} {lines linesAfter : LineTable}
    {pools grown : Pools} {statements : List Statement} (size : code.size = place)
    (encoded : draft.encodeFrom place code lines pools statements =
      .ok (codeAfter, linesAfter, grown)) :
    codeAfter.size = place + statements.length ∧ Extends codeAfter code ∧
      pools.resources.Grow grown.resources ∧
      ∀ (i : Nat) statement, statements[i]? = some statement →
        ∃ word, codeAfter[place + i]? = some word ∧
          EncodedAs grown.resources draft.Labelled (place + i) statement.instruction
            statement.operands word := by
  induction statements generalizing place code lines pools with
  | nil =>
    cases encoded
    exact ⟨by simp [size], .refl _, .refl _, fun i statement listed => by cases listed⟩
  | cons statement rest ih =>
    unfold encodeFrom at encoded
    split at encoded
    next => cases encoded
    next word more first =>
      obtain ⟨growth, meaning⟩ := encode_encodedAs first
      obtain ⟨sizes, extended, growthRest, words⟩ := ih (by simp [size]) encoded
      refine ⟨by rw [sizes, List.length_cons]; omega, ?_, growth.trans growthRest, ?_⟩
      · exact extended.trans (by simpa using extends_append code #[word])
      · intro i other listed
        cases i with
        | zero =>
          cases listed
          refine ⟨word, extended place word (by simp [← size]), ?_⟩
          exact meaning.mono growthRest fun _ _ defined => defined
        | succ i =>
          have shifted : place + (i + 1) = place + 1 + i := by omega
          rw [shifted]
          exact words i other listed

theorem registerCount_eq_ok {pools : Pools} {bank : Bank} {count : UInt16}
    (counted : draft.registerCount pools bank = .ok count) : count.toNat = pools.used.get bank := by
  unfold registerCount at counted
  dsimp only at counted
  split at counted
  next few =>
    cases counted
    exact UInt16.toNat_ofNat_of_lt' few
  next => cases counted

theorem finish_eq_ok {routine : Routine} (finished : draft.finish = .ok routine) :
    routine.name = draft.name ∧ ∃ pools,
      draft.encodeFrom 0 #[] .empty .empty draft.body.toList =
        .ok (routine.code, routine.lines, pools) ∧
      pools.resources.Grow routine.resources := by
  unfold finish at finished
  obtain ⟨⟨code, lines, pools⟩, encoded, finished⟩ := bind_eq_ok.1 finished
  obtain ⟨ints, intCount, finished⟩ := bind_eq_ok.1 finished
  obtain ⟨floats, floatCount, finished⟩ := bind_eq_ok.1 finished
  obtain ⟨strings, stringCount, finished⟩ := bind_eq_ok.1 finished
  obtain ⟨pointers, pointerCount, finished⟩ := bind_eq_ok.1 finished
  cases finished
  refine ⟨rfl, pools, encoded, .refl _, .refl _, .refl _, .refl _, fun bank => ?_⟩
  cases bank with
  | int => exact Nat.le_of_eq (registerCount_eq_ok intCount).symm
  | float => exact Nat.le_of_eq (registerCount_eq_ok floatCount).symm
  | string => exact Nat.le_of_eq (registerCount_eq_ok stringCount).symm
  | pointer => exact Nat.le_of_eq (registerCount_eq_ok pointerCount).symm

theorem finish_encodes {routine : Routine} (finished : draft.finish = .ok routine) :
    routine.name = draft.name ∧ routine.code.size = draft.body.size ∧
      ∀ (place : Nat) statement, draft.body[place]? = some statement →
        ∃ word, routine.code[place]? = some word ∧
          EncodedAs routine.resources draft.Labelled place statement.instruction
            statement.operands word := by
  obtain ⟨name, pools, encoded, growth⟩ := finish_eq_ok finished
  obtain ⟨size, -, -, words⟩ := encodeFrom_encodes (by simp) encoded
  refine ⟨name, by simpa using size, fun place statement listed => ?_⟩
  obtain ⟨word, found, meaning⟩ := words place statement (by simpa using listed)
  rw [Nat.zero_add] at found meaning
  exact ⟨word, found, meaning.mono growth fun _ _ defined => defined⟩

def WrittenAs (statement : Statement) (written : Token × List Token) : Prop :=
  Instruction.ofMnemonic? written.1.text = some statement.instruction ∧
    statement.operands = written.2

structure Records (draft : Draft) (listing : Listing) : Prop where
  name : draft.name = listing.name
  body : List.Forall₂ WrittenAs draft.body.toList listing.instructions
  labels : ∀ name target, draft.Labelled name target ↔ listing.Labels name target

theorem records_start (name sourceName : String) (line : Nat) :
    (Draft.start name sourceName line).Records ⟨name, []⟩ where
  name := rfl
  body := .nil
  labels name target := by
    constructor
    · intro defined
      cases defined
    · rintro ⟨before, line, after, split, -, -⟩
      cases before <;> cases split

/-- A line adds its instruction, and keeps the labels there are. -/
theorem Records.add (records : draft.Records listing) (line : Line) {added : List Statement}
    (name : after.name = draft.name) (body : after.body.toList = draft.body.toList ++ added)
    (written : List.Forall₂ WrittenAs added line.instruction?.toList)
    (labels : ∀ name target, after.Labelled name target ↔ draft.Labelled name target ∨
      line.label? = some name ∧ target = draft.body.size) :
    after.Records (listing.add line) where
  name := name.trans records.name
  body := by
    rw [body, Listing.instructions_add]
    exact List.rel_append records.body written
  labels name target := by
    rw [labels, records.labels, Listing.labels_add, ← records.body.length_eq, Array.length_toList]

theorem append_eq_ok {tokens : List Token} (appended : draft.append line tokens = .ok after) :
    after.name = draft.name ∧ after.labels = draft.labels ∧ after.sourceLine = draft.sourceLine ∧
      after.maxParam = draft.maxParam ∧ ∃ added, after.body.toList = draft.body.toList ++ added ∧
        List.Forall₂ WrittenAs added (Line.instructionOf tokens).toList ∧
        ∀ statement ∈ added, statement.sourceLine = draft.sourceLine.getD (UInt32.ofNat line) := by
  cases tokens with
  | nil =>
    cases appended
    exact ⟨rfl, rfl, rfl, rfl, [], by simp, .nil, by simp⟩
  | cons mnemonic operands =>
    simp only [append] at appended
    split at appended
    next => cases appended
    next instruction found =>
      cases appended
      exact ⟨rfl, rfl, rfl, rfl, [_], Array.toList_push, .cons ⟨found, rfl⟩ .nil, by simp⟩

theorem defineLabel_eq_ok {column : Nat} {name : String}
    (defined : locate line column (draft.defineLabel name) = .ok after) :
    draft.label? name = none ∧
      after = { draft with labels := (name, draft.body.size) :: draft.labels } := by
  unfold defineLabel at defined
  split at defined
  next => cases defined
  next fresh =>
    cases defined
    exact ⟨fresh, rfl⟩

theorem Records.code (records : draft.Records listing) {first : Token} {rest : List Token}
    (plain : ∀ name, first.text.toList ≠ '.' :: name)
    (added : draft.addLine line first rest = .ok after) :
    after.Records (listing.add (Line.ofTokens (first :: rest))) := by
  unfold addLine at added
  split at added
  next name labelled =>
    obtain ⟨middle, defined, added⟩ := bind_eq_ok.1 added
    obtain ⟨sameName, sameLabels, -, -, statements, body, written, -⟩ := append_eq_ok added
    obtain ⟨fresh, rfl⟩ := defineLabel_eq_ok defined
    rw [Line.ofTokens_of_plain plain, labelled]
    refine records.add _ sameName body written fun other target => ?_
    rw [Labelled, label?, sameLabels, List.lookup_cons]
    by_cases same : other = name
    · subst same
      simp [Labelled, fresh, Line.label?, eq_comm]
    · rw [beq_false_of_ne same]
      simp [Labelled, label?, Line.label?, Ne.symm same]
  next unlabelled =>
    obtain ⟨sameName, sameLabels, -, -, statements, body, written, -⟩ := append_eq_ok added
    rw [Line.ofTokens_of_plain plain, unlabelled]
    refine records.add _ sameName body written fun other target => ?_
    simp [Labelled, label?, sameLabels, Line.label?]

/-- No directive changes what the function has so far; one sets the line, and one the number of
parameters that may be staged. -/
theorem direct_keeps {name : String} {arguments : List Token}
    (changed : draft.direct name arguments = .ok after) :
    after.name = draft.name ∧ after.body = draft.body ∧ after.labels = draft.labels ∧
      after.sourceLine = (Line.directive name arguments).numbering?.or draft.sourceLine ∧
      after.line = draft.line ∧ (name ≠ "maxparam" → after.maxParam = draft.maxParam) := by
  unfold direct at changed
  split at changed
  next file =>
    have other : (Line.directive name arguments).numbering? = none := by
      rw [eq_of_beq file]
      rfl
    rw [other]
    split at changed
    next =>
      split at changed
      next =>
        obtain ⟨_, -, changed⟩ := bind_eq_ok.1 changed
        cases changed
        exact ⟨rfl, rfl, rfl, rfl, rfl, fun _ => rfl⟩
      next =>
        cases changed
        exact ⟨rfl, rfl, rfl, rfl, rfl, fun _ => rfl⟩
    next => cases changed
  next =>
    rw [Line.numbering?]
    split at changed
    next line =>
      obtain ⟨number, read, changed⟩ := bind_eq_ok.1 changed
      cases changed
      rw [if_pos line, read]
      exact ⟨rfl, rfl, rfl, rfl, rfl, fun _ => rfl⟩
    next other =>
      rw [if_neg other]
      split at changed
      next =>
        obtain ⟨_, -, changed⟩ := bind_eq_ok.1 changed
        cases changed
        exact ⟨rfl, rfl, rfl, rfl, rfl, fun _ => rfl⟩
      next =>
        split at changed
        next limit =>
          obtain ⟨_, -, changed⟩ := bind_eq_ok.1 changed
          split at changed
          next =>
            cases changed
            exact ⟨rfl, rfl, rfl, rfl, rfl, fun other => absurd (eq_of_beq limit) other⟩
          next => cases changed
        next => cases changed

theorem Records.directive (records : draft.Records listing) {name : String} {arguments : List Token}
    (changed : draft.direct name arguments = .ok after) :
    after.Records (listing.add (.directive name arguments)) := by
  obtain ⟨sameName, sameBody, sameLabels, -⟩ := direct_keeps changed
  refine records.add _ sameName ((congrArg Array.toList sameBody).trans (List.append_nil _).symm) .nil
    fun other target => ?_
  simp [Labelled, label?, sameLabels, Line.label?]

theorem Records.assembles {routine : Routine} (records : draft.Records listing)
    (finished : draft.finish = .ok routine) : Assembles listing routine := by
  obtain ⟨name, size, words⟩ := finish_encodes finished
  refine ⟨name.trans records.name,
    size.trans (Array.length_toList.symm.trans records.body.length_eq), ?_⟩
  intro place mnemonic operands written
  obtain ⟨within, same⟩ := List.getElem?_eq_some_iff.1 written
  have inside : place < draft.body.toList.length := by
    rwa [records.body.length_eq]
  obtain ⟨found, given⟩ := (List.forall₂_iff_get.1 records.body).2 place inside within
  simp only [List.get_eq_getElem, same] at found given
  obtain ⟨word, there, meaning⟩ := words place draft.body.toList[place] (by simp)
  rw [given] at meaning
  refine ⟨_, word, found, there, ?_,
    meaning.mono (.refl _) fun name target => (records.labels name target).1⟩
  rw [Word.instruction, meaning.opcode, Instruction.ofOpcode?_of_ofMnemonic? found]

end Draft

/-- What a line that does not close it makes of an open function. -/
inductive Draft.Reads (draft : Draft) (line : Nat) : Line → Draft → Prop where
  | blank : Reads draft line .blank draft
  | directive {name arguments after} (changed : draft.direct name arguments = .ok after) :
      Reads draft line (.directive name arguments) after
  | code {first rest after} (plain : ∀ name, first.text.toList ≠ '.' :: name)
      (added : draft.addLine line first rest = .ok after) :
      Reads draft line (Line.ofTokens (first :: rest)) after

theorem Draft.Records.reads {draft after : Draft} {listing : Listing} {number : Nat} {line : Line}
    (records : draft.Records listing) (reads : draft.Reads number line after) :
    after.Records (listing.add line) := by
  cases reads with
  | blank =>
    exact records.add _ rfl (List.append_nil _).symm .nil fun _ _ => by simp [Line.label?]
  | directive changed => exact records.directive changed
  | code plain added => exact records.code plain added

def Drafted (listing : Listing) (routine : Routine) : Prop :=
  ∃ draft : Draft, draft.Records listing ∧ draft.finish = .ok routine

theorem Drafted.assembles {listing : Listing} {routine : Routine}
    (drafted : Drafted listing routine) : Assembles listing routine := by
  obtain ⟨draft, records, finished⟩ := drafted
  exact records.assembles finished

/-- In a function that assembles, a label is defined once. -/
theorem Drafted.label_unique {listing : Listing} {routine : Routine}
    (drafted : Drafted listing routine) {name : String} {first second : Nat}
    (one : listing.Labels name first) (other : listing.Labels name second) : first = second := by
  obtain ⟨draft, records, -⟩ := drafted
  have found := (records.labels name first).2 one
  have again := (records.labels name second).2 other
  rw [Draft.Labelled] at found again
  exact Option.some.inj (found.symm.trans again)

theorem tokenize_eq_ok {line : Nat} {text : String} {tokens : List Token}
    (split : tokenize line text = .ok tokens) : Line.of text = Line.ofTokens tokens := by
  unfold tokenize at split
  dsimp only at split
  split at split
  next => cases split
  next =>
    split at split
    next => cases split
    next =>
      cases split
      rfl

theorem locate_eq_ok {line column : Nat} {result : Except (Halt Cause) α} {value : α}
    (located : locate line column result = .ok value) : result = .ok value := by
  cases result with
  | ok given =>
    cases located
    rfl
  | error cause => cases located

namespace State

variable {state next : State} {sourceName : String} {line : Nat} {text : String}

/-- What one line does when no function is open. -/
theorem addLine_idle (idle : state.current = none)
    (added : state.addLine sourceName line text = .ok next) :
    next = { state with current := (Line.of text).opens?.map (Draft.start · sourceName line) } := by
  obtain ⟨tokens, split, added⟩ := bind_eq_ok.1 added
  rw [tokenize_eq_ok (lift_eq_ok.1 split)]
  cases tokens with
  | nil =>
    cases added
    cases state
    cases idle
    rfl
  | cons first rest =>
    dsimp only at added
    split at added
    next name dotted =>
      simp only [Line.ofTokens, dotted]
      unfold direct at added
      rw [idle] at added
      split at added
      next opening =>
        cases rest with
        | nil => cases added
        | cons token others =>
          cases others with
          | nil =>
            dsimp only at added
            split at added
            next => cases added
            next =>
              cases added
              simp [Line.opens?, opening]
          | cons _ _ => cases added
      next =>
        split at added
        next => cases added
        next => cases added
    next =>
      rw [idle] at added
      cases added

/-- What one line does to the function that is open. -/
theorem addLine_busy {draft : Draft} (busy : state.current = some draft)
    (added : state.addLine sourceName line text = .ok next) :
    if (Line.of text).closes then
      ∃ routine, draft.finish = .ok routine ∧ next = ⟨state.routines ++ [routine], none⟩
    else ∃ after, next = { state with current := some after } ∧
      draft.Reads line (Line.of text) after := by
  obtain ⟨tokens, split, added⟩ := bind_eq_ok.1 added
  rw [tokenize_eq_ok (lift_eq_ok.1 split)]
  cases tokens with
  | nil =>
    cases added
    refine ⟨draft, ?_, .blank⟩
    rw [← busy]
  | cons first rest =>
    dsimp only at added
    split at added
    next name dotted =>
      simp only [Line.ofTokens, dotted, Line.closes]
      unfold direct at added
      rw [busy] at added
      split at added
      next => cases added
      next =>
        split at added
        next ending =>
          obtain ⟨routine, finished, added⟩ := bind_eq_ok.1 added
          cases added
          rw [if_pos ending]
          exact ⟨routine, finished, rfl⟩
        next going =>
          obtain ⟨after, changed, added⟩ := bind_eq_ok.1 (locate_eq_ok added)
          cases added
          rw [if_neg going]
          exact ⟨after, rfl, .directive changed⟩
    next plain =>
      rw [busy] at added
      obtain ⟨after, changed, added⟩ := bind_eq_ok.1 added
      cases added
      have plain : ∀ name, first.text.toList ≠ '.' :: name := plain
      rw [if_neg (by rw [Line.ofTokens_of_plain plain]; split <;> exact Bool.false_ne_true)]
      exact ⟨after, rfl, .code plain changed⟩

/-- What a draft has from the lines read so far, the last of which are those of its function. -/
abbrev Account := List Line → Draft → Listing → Prop

/-- What is said of an open function holds when it starts and stays so with each of its lines. -/
structure Kept (sourceName : String) (holds : Account) : Prop where
  starts : ∀ past line name, line.opens? = some name →
    holds (past ++ [line]) (.start name sourceName (past.length + 1)) ⟨name, []⟩
  reads : ∀ past line draft after listing, holds past draft listing →
    draft.Reads (past.length + 1) line after → holds (past ++ [line]) after (listing.add line)

inductive Follows (holds : Account) (past : List Line) : Option Draft → Option Listing → Prop where
  | idle : Follows holds past none none
  | busy {draft listing} (kept : holds past draft listing) :
      Follows holds past (some draft) (some listing)

/-- What is kept of open functions holds of each when it is finished. -/
theorem addLines_kept {holds : Account} (kept : Kept sourceName holds) {final : State}
    {current : Option Listing} {texts : List String} (past : List Line)
    (follows : Follows holds past state.current current)
    (added : State.addLines sourceName (past.length + 1) state texts = .ok final) :
    ∃ routines, final.routines = state.routines ++ routines ∧
      List.Forall₂
        (fun listing routine => ∃ read draft, read <+: past ++ texts.map Line.of ∧
          holds read draft listing ∧ draft.finish = .ok routine)
        (Listing.collect current (texts.map Line.of)) routines := by
  induction texts generalizing state past current with
  | nil =>
    cases added
    exact ⟨[], (List.append_nil _).symm, .nil⟩
  | cons text rest ih =>
    obtain ⟨next, first, added⟩ := bind_eq_ok.1 added
    have read : (past ++ [Line.of text]).length = past.length + 1 := List.length_append
    rw [← read] at added
    rw [List.map_cons]
    generalize opened : state.current = draft at follows
    cases follows with
    | idle =>
      have change := addLine_idle opened first
      have started : Follows holds (past ++ [Line.of text]) next.current
          ((Line.of text).opens?.map (⟨·, []⟩)) := by
        rw [change]
        cases opening : (Line.of text).opens? with
        | none => exact .idle
        | some name => exact .busy (kept.starts past _ name opening)
      obtain ⟨routines, joined, finished⟩ := ih _ started added
      rw [change] at joined
      rw [Listing.collect]
      rw [List.append_assoc, List.singleton_append] at finished
      exact ⟨routines, joined, finished⟩
    | @busy draft listing held =>
      have change := addLine_busy opened first
      rw [Listing.collect]
      split at change
      next closing =>
        obtain ⟨routine, finished, rfl⟩ := change
        obtain ⟨routines, joined, others⟩ := ih _ .idle added
        rw [List.append_assoc, List.singleton_append] at others
        rw [if_pos closing]
        refine ⟨routine :: routines, ?_,
          .cons ⟨past, draft, List.prefix_append _ _, held, finished⟩ others⟩
        rw [joined, List.append_assoc, List.singleton_append]
      next going =>
        obtain ⟨after, rfl, reads⟩ := change
        obtain ⟨routines, joined, others⟩ := ih _ (.busy (kept.reads past _ _ _ _ held reads)) added
        rw [List.append_assoc, List.singleton_append] at others
        rw [if_neg going]
        exact ⟨routines, joined, others⟩

end State

theorem assemble_kept {holds : State.Account} {sourceName source : String} {program : Program}
    (kept : State.Kept sourceName holds) (assembled : assemble sourceName source = .ok program) :
    List.Forall₂
      (fun listing routine => ∃ read draft, read <+: (Text.lines source).map Line.of ∧
        holds read draft listing ∧ draft.finish = .ok routine)
      (Listing.ofSource source) program.routines := by
  obtain ⟨final, added, assembled⟩ := bind_eq_ok.1 assembled
  split at assembled
  next => cases assembled
  next =>
    cases assembled
    obtain ⟨routines, joined, finished⟩ := State.addLines_kept kept [] .idle added
    rw [joined]
    exact finished

theorem Draft.records_kept (sourceName : String) :
    State.Kept sourceName fun _ draft listing => draft.Records listing where
  starts _ _ name _ := records_start name sourceName _
  reads _ _ _ _ _ records reads := records.reads reads

theorem assemble_drafted {sourceName source : String} {program : Program}
    (assembled : assemble sourceName source = .ok program) :
    List.Forall₂ Drafted (Listing.ofSource source) program.routines :=
  (assemble_kept (Draft.records_kept sourceName) assembled).imp
    fun _ _ ⟨_, draft, _, records, finished⟩ => ⟨draft, records, finished⟩

theorem assemble_assembles {sourceName source : String} {program : Program}
    (assembled : assemble sourceName source = .ok program) :
    List.Forall₂ Assembles (Listing.ofSource source) program.routines :=
  (assemble_drafted assembled).imp fun _ _ drafted => drafted.assembles

/-- The routine is linked from what a function of an accepted text was assembled to. -/
def AssembledFrom (routine : LinkedRoutine) (listing : Listing) : Prop :=
  ∃ sourceName source program, assemble sourceName source = .ok program ∧
    ∃ (index : Nat) (origin : Routine) (resolve : Symbol → Except Fault Pointer),
      (Listing.ofSource source)[index]? = some listing ∧ program.routines[index]? = some origin ∧
      origin.link resolve = .ok routine

theorem AssembledFrom.drafted {routine : LinkedRoutine} {listing : Listing}
    (assembled : AssembledFrom routine listing) :
    ∃ origin resolve, Drafted listing origin ∧ Routine.link origin resolve = .ok routine := by
  obtain ⟨_, _, _, accepted, index, origin, resolve, listed, member, link⟩ := assembled
  obtain ⟨other, found, drafted⟩ := exists_getElem?_of_forall₂ (assemble_drafted accepted) listed
  cases found.symm.trans member
  exact ⟨origin, resolve, drafted, link⟩

theorem link_keeps {origin : Routine} {routine : LinkedRoutine}
    {resolve : Symbol → Except Fault Pointer} (link : origin.link resolve = .ok routine) :
    routine.code = origin.code ∧ routine.layout = origin.layout := by
  obtain ⟨pointers, -, made⟩ := bind_eq_ok.1 link
  cases made
  exact ⟨rfl, rfl⟩

/-- The word of an instruction that was written. -/
theorem AssembledFrom.word {routine : LinkedRoutine} {listing : Listing}
    (assembled : AssembledFrom routine listing) {place : Nat} {instruction : Instruction}
    {operands : List Token} (written : listing.At place instruction operands) :
    ∃ origin resolve word, Drafted listing origin ∧ Routine.link origin resolve = .ok routine ∧
      routine.code[place]? = some word ∧ Instruction.ofOpcode? word.opcode = some instruction ∧
      EncodedAs origin.resources listing.Labels place instruction operands word := by
  obtain ⟨origin, resolve, drafted, link⟩ := assembled.drafted
  obtain ⟨word, located, decoded, encoded⟩ := drafted.assembles.code_of_at written
  exact ⟨origin, resolve, word, drafted, link, (link_keeps link).1 ▸ located, decoded, encoded⟩

/-- Every word of such a routine was written. -/
theorem AssembledFrom.written {routine : LinkedRoutine} {listing : Listing}
    (assembled : AssembledFrom routine listing) {place : Nat} {word : Word}
    (located : routine.code[place]? = some word) :
    ∃ instruction operands, listing.At place instruction operands ∧
      Instruction.ofOpcode? word.opcode = some instruction := by
  obtain ⟨origin, resolve, drafted, link⟩ := assembled.drafted
  rw [(link_keeps link).1] at located
  exact drafted.assembles.at_of_code located

/-- Each function of an accepted text becomes a routine with one word for each instruction, in their
order. The word has the number that belongs to the mnemonic, and its operands are what the tokens
stand for; with every word of the instruction set the machine does what its operands say. -/
theorem assemble_faithful {sourceName source : String} {program : Program}
    (assembled : assemble sourceName source = .ok program) :
    List.Forall₂ Assembles (Listing.ofSource source) program.routines ∧
      ∀ (ν : Type) (setting : Setting ν) (w : Word) (offset : Nat) (instruction : Instruction),
        w.instruction offset = .ok instruction →
        Action.perform setting instruction w =
          Action.outcome setting instruction.mnemonic instruction.operation
            (w.decode instruction.operands) :=
  ⟨assemble_assembles assembled, fun _ setting w _ _ decoded =>
    Action.perform_eq_outcome setting (Word.instruction_mem decoded) w⟩

def counting : String :=
  ".func Count\nLI d0, -3\nagain:\nADDI d0, d0, 1\nEQ_K false, d0, 0\nJMP again\nRET 0!, d0\n.end\n"

/-- The first word sets a register to -3. -/
theorem assemble_faithful_counting : ∃ program, assemble anonymous counting = .ok program ∧
    program.routines.map (fun routine => routine.code.size) = [5] ∧
    List.Forall₂ Assembles (Listing.ofSource counting) program.routines ∧
    Action.perform (⟨.standard, .empty, 1⟩ : Setting Unit) ⟨0x01, "LI", .loadImmediate⟩
      ⟨0xfffd0001⟩ = (Action.setRegister .int 0 (-3 : Int32) >>= fun _ => pure .proceed) := by
  have sizes : ((assemble anonymous counting).toOption.map fun program =>
      program.routines.map fun routine => routine.code.size) = some [5] := by
    decide +kernel
  cases result : assemble anonymous counting with
  | error failure =>
    rw [result] at sizes
    cases sizes
  | ok program =>
    rw [result] at sizes
    have faithful := assemble_faithful result
    exact ⟨program, rfl, Option.some.inj sizes, faithful.1,
      (faithful.2 Unit _ ⟨0xfffd0001⟩ 0 _ rfl).trans rfl⟩

end Assembly

theorem eq_ok_of_toOption {result : Except ε α} {value : α} (found : result.toOption = some value) :
    result = .ok value := by
  cases result with
  | error _ => cases found
  | ok other =>
    cases found
    rfl

/-- The code of the first function of a text, where all symbols stand for function 0. -/
def LinkedRoutine.ofSource? (source : String) : Option LinkedRoutine := do
  let program ← (Assembly.assemble "" source).toOption
  let origin ← program.routines.head?
  (origin.link fun _ => .ok (.function ⟨0⟩)).toOption

theorem Assembly.assembledFrom_of_ofSource? {source : String} {routine : LinkedRoutine}
    {listing : Listing} (found : LinkedRoutine.ofSource? source = some routine)
    (first : (Listing.ofSource source)[0]? = some listing) : AssembledFrom routine listing := by
  obtain ⟨program, accepted, found⟩ := Option.bind_eq_some_iff.1 found
  obtain ⟨origin, head, link⟩ := Option.bind_eq_some_iff.1 found
  exact ⟨"", source, program, eq_ok_of_toOption accepted, 0, origin, _, first,
    List.head?_eq_getElem?.symm.trans head, eq_ok_of_toOption link⟩

end GameScript
