import GameScript.Assembly.Diagnostic
import GameScript.Proofs.AssembledCode
import GameScript.Proofs.LibraryNumbers
import GameScript.Proofs.LineTokens
import GameScript.Proofs.NumeralOverflow

/-! Where assembling fails. A line offers its own columns as places, and a draft keeps the places of
its statements and of the line that opened it, so what goes wrong at the end of a function is
reported inside the text as well. Names that are alike are refused where the second one opens. What is
not reported at all is an overflow, for which some line has to hold the numeral. -/

namespace GameScript.Assembly

open Text

/-! ### Columns of a line -/

namespace Scan

variable {scan : Scan}

/-- Nothing is open, or a token is whose start has been passed. -/
def Begun (scan : Scan) : Prop :=
  (scan.current = none ∧ scan.quoted = false ∧ scan.depth = 0) ∨
    ∃ first chars, scan.current = some (first, chars) ∧ first < scan.offset

/-- A character that belongs to a token leaves one open. -/
theorem Begun.extend (begun : scan.Begun) {c : Char} {next : Scan}
    (same : next.current = (scan.extend c).current) :
    Begun { next with offset := scan.offset + c.utf8Size } := by
  have size := c.utf8Size_pos
  rcases begun with ⟨closed, -, -⟩ | ⟨first, chars, opened, earlier⟩
  · refine .inr ⟨scan.offset, [c], ?_, Nat.lt_add_of_pos_right size⟩
    simp [same, Scan.extend, closed]
  · refine .inr ⟨first, c :: chars, ?_, Nat.lt_add_right _ earlier⟩
    simp [same, Scan.extend, opened]

theorem Begun.step (begun : scan.Begun) (c : Char) : (scan.step c).Begun := by
  unfold Scan.step
  dsimp only
  split
  next => exact begun.extend (by (repeat' split) <;> rfl)
  next code =>
    rw [Bool.not_eq_true] at code
    split
    next => exact begun.extend rfl
    split
    next => exact begun.extend rfl
    split
    next closing =>
      rcases begun with ⟨closed, code, flat⟩ | ⟨first, chars, opened, earlier⟩
      · left
        simp [extendOnly, closed, code, flat]
      · exact Begun.extend (.inr ⟨first, chars, opened, earlier⟩) (by simp [extendOnly, opened])
    split
    next separator =>
      obtain ⟨-, flat⟩ := Bool.and_eq_true_iff.1 separator
      left
      unfold close
      cases current : scan.current <;> simp_all
    next => exact begun.extend rfl

theorem offset_step (c : Char) : (scan.step c).offset = scan.offset + c.utf8Size := rfl

theorem Begun.run (begun : scan.Begun) (text : List Char) :
    (scan.run text).Begun ∧ (scan.run text).offset ≤ scan.offset + String.utf8Len text := by
  induction text generalizing scan with
  | nil => exact ⟨begun, Nat.le_add_right _ _⟩
  | cons c rest ih =>
    unfold Scan.run
    split
    · exact ⟨begun, Nat.le_add_right _ _⟩
    · obtain ⟨kept, bounded⟩ := ih (begun.step c)
      refine ⟨kept, ?_⟩
      rw [offset_step] at bounded
      rw [String.utf8Len_cons]
      omega

/-- What is left open starts inside the line. -/
theorem column_of_unfinished {text : String} (unfinished : (start.run text.toList).Unfinished) :
    1 ≤ (start.run text.toList).column ∧ (start.run text.toList).column ≤ text.utf8ByteSize := by
  have begun : start.Begun := .inl ⟨rfl, rfl, rfl⟩
  obtain ⟨kept, bounded⟩ := begun.run text.toList
  rw [String.utf8Len_toList] at bounded
  rcases kept with ⟨-, code, flat⟩ | ⟨first, chars, opened, earlier⟩
  · rcases unfinished with quoted | deep
    · rw [code] at quoted
      cases quoted
    · omega
  · have bounded : (start.run text.toList).offset ≤ 0 + text.utf8ByteSize := bounded
    simp only [column, opened]
    omega

end Scan

/-- A column of a line, counted in bytes from 1. -/
def InLine (text : String) (column : Nat) : Prop := 1 ≤ column ∧ column ≤ text.utf8ByteSize

theorem column_of_tokenize_error {line : Nat} {text : String} {failure : Failure}
    (failed : tokenize line text = .error failure) :
    failure.line = line ∧ InLine text failure.column := by
  unfold tokenize at failed
  dsimp only at failed
  split at failed
  next quoted =>
    cases failed
    exact ⟨rfl, Scan.column_of_unfinished (.inl quoted)⟩
  next =>
    split at failed
    next deep =>
      cases failed
      exact ⟨rfl, Scan.column_of_unfinished (.inr deep)⟩
    next => cases failed

/-- A token stands in its line, and starts at a column of it. -/
theorem column_of_tokenize {line : Nat} {text : String} {tokens : List Token}
    (split : tokenize line text = .ok tokens) {token : Token} (member : token ∈ tokens) :
    InLine text token.column ∧ token.text.toList <:+: text.toList := by
  obtain ⟨code, comment, whole, -, -, account⟩ := (tokenize_eq_ok_iff.1 split).account
  obtain ⟨before, after, rfl, column, -⟩ := account.placed token member
  have size : 0 < token.text.utf8ByteSize := by
    refine Nat.pos_of_ne_zero fun empty => account.nonempty token member ?_
    exact String.utf8ByteSize_eq_zero_iff.1 empty
  have length := congrArg String.utf8Len whole
  simp only [String.utf8Len_append, String.utf8Len_toList] at length
  refine ⟨?_, before, after ++ comment, by simp [whole]⟩
  rw [column]
  exact ⟨by omega, by omega⟩

/-! ### How a text may stop assembling -/

/-- The places where failures are allowed, and whether an overflow is. -/
structure Stops where
  place : Nat → Nat → Prop
  overflow : Prop

structure Stops.Cover (stops : Stops) (line : Nat) (token : Token) : Prop where
  place : stops.place line token.column
  overflow : HoldsOverflow token.text.toList → stops.overflow

structure Stops.Admit (stops : Stops) (line : Nat) (text : String) : Prop where
  place : ∀ column, InLine text column → stops.place line column
  overflow : HoldsOverflow text.toList → stops.overflow

def Yields (stops : Stops) (holds : α → Prop) : Except (Halt Failure) α → Prop
  | .ok value => holds value
  | .error (.failed failure) => stops.place failure.line failure.column
  | .error .overflow => stops.overflow

section Yields

variable {stops : Stops} {line column : Nat}

theorem Yields.bind {holds : α → Prop} {after : β → Prop} {first : Except (Halt Failure) α}
    {next : α → Except (Halt Failure) β} (yields : Yields stops holds first)
    (rest : ∀ value, holds value → Yields stops after (next value)) :
    Yields stops after (first >>= next) := by
  cases first with
  | error halt => cases halt <;> exact yields
  | ok value => exact rest value yields

theorem yields_locate {holds : α → Prop} {result : Except (Halt Cause) α}
    (here : stops.place line column) (overflows : OverflowsFor stops.overflow result)
    (kept : ∀ value, result = .ok value → holds value) :
    Yields stops holds (locate line column result) := by
  cases result with
  | ok value => exact kept value rfl
  | error halt =>
    cases halt with
    | failed cause => exact here
    | overflow => exact overflows rfl

theorem yields_tokenize {text : String}
    (inside : ∀ column, InLine text column → stops.place line column) :
    Yields stops
      (fun tokens => ∀ token ∈ tokens, InLine text token.column ∧ token.text.toList <:+: text.toList)
      (liftM (tokenize line text)) := by
  cases split : tokenize line text with
  | error failure =>
    obtain ⟨same, column⟩ := column_of_tokenize_error split
    rw [← same] at inside
    exact inside _ column
  | ok tokens => exact fun token member => column_of_tokenize split member

end Yields

/-! ### Functions and the whole text -/

namespace Draft

variable {stops : Stops} {draft : Draft} {line : Nat}

structure Placed (stops : Stops) (draft : Draft) : Prop where
  opening : stops.place draft.line 1
  mnemonics : ∀ statement ∈ draft.body, stops.place statement.line statement.column
  operands : ∀ statement ∈ draft.body, ∀ token ∈ statement.operands,
    stops.Cover statement.line token

theorem yields_encodeOperands {place : Nat} {fields : List ((Field × OperandKind) × Token)}
    {expected : List (Option (Bank × Nat))} {word : Word} {pools : Pools}
    (covered : ∀ field ∈ fields, stops.Cover line field.2) :
    Yields stops (fun _ => True) (draft.encodeOperands place line fields expected word pools) := by
  induction fields generalizing expected word pools with
  | nil => trivial
  | cons field rest ih =>
    unfold encodeOperands
    split
    next => exact ih fun other member => covered other (List.mem_cons_of_mem _ member)
    next halt stopped =>
      have here := covered _ List.mem_cons_self
      cases halt with
      | failed cause => exact here.place
      | overflow => exact here.overflow (overflowsFor_encodeOperand _ stopped)

theorem yields_encode {place : Nat} {statement : Statement} {pools : Pools}
    (mnemonic : stops.place statement.line statement.column)
    (operands : ∀ token ∈ statement.operands, stops.Cover statement.line token) :
    Yields stops (fun _ => True) (draft.encode place statement pools) := by
  unfold encode
  dsimp only
  split
  next => exact mnemonic
  next =>
    apply yields_encodeOperands
    intro field member
    exact operands field.2 (List.of_mem_zip member).2

theorem yields_encodeFrom {place : Nat} {code : Array Word} {lines : LineTable} {pools : Pools}
    {statements : List Statement}
    (mnemonics : ∀ statement ∈ statements, stops.place statement.line statement.column)
    (operands : ∀ statement ∈ statements, ∀ token ∈ statement.operands,
      stops.Cover statement.line token) :
    Yields stops (fun _ => True) (draft.encodeFrom place code lines pools statements) := by
  induction statements generalizing place code lines pools with
  | nil => trivial
  | cons statement rest ih =>
    have first : Yields stops (fun _ => True) (draft.encode place statement pools) :=
      yields_encode (mnemonics statement List.mem_cons_self) (operands statement List.mem_cons_self)
    unfold encodeFrom
    split
    next halt stopped =>
      rw [stopped] at first
      cases halt <;> exact first
    next =>
      exact ih (fun other member => mnemonics other (List.mem_cons_of_mem _ member))
        fun other member => operands other (List.mem_cons_of_mem _ member)

theorem yields_registerCount (opening : stops.place draft.line 1) (pools : Pools) (bank : Bank) :
    Yields stops (fun _ => True) (draft.registerCount pools bank) := by
  unfold registerCount
  dsimp only
  split
  next => trivial
  next => exact opening

theorem Placed.yields_finish (placed : draft.Placed stops) :
    Yields stops (fun routine => routine.name = draft.name) draft.finish := by
  have counts (pools : Pools) (bank : Bank) :
      Yields stops (fun _ => True) (draft.registerCount pools bank) :=
    yields_registerCount placed.opening pools bank
  unfold finish
  refine (yields_encodeFrom (by simpa using placed.mnemonics)
    (by simpa using placed.operands)).bind fun ⟨code, lines, pools⟩ _ => ?_
  refine (counts pools .int).bind fun ints _ => ?_
  refine (counts pools .float).bind fun floats _ => ?_
  refine (counts pools .string).bind fun strings _ => ?_
  refine (counts pools .pointer).bind fun pointers _ => ?_
  rfl

theorem Placed.yields_append (placed : draft.Placed stops) {tokens : List Token}
    (here : ∀ token ∈ tokens, stops.Cover line token) :
    Yields stops (fun after => after.name = draft.name ∧ after.Placed stops)
      (draft.append line tokens) := by
  cases tokens with
  | nil => exact ⟨rfl, placed⟩
  | cons mnemonic operands =>
    simp only [append]
    split
    next => exact (here mnemonic List.mem_cons_self).place
    next =>
      refine ⟨rfl, placed.opening, ?_, ?_⟩
      · intro statement member
        rcases Array.mem_push.1 member with member | rfl
        · exact placed.mnemonics statement member
        · exact (here mnemonic List.mem_cons_self).place
      · intro statement member token operand
        rcases Array.mem_push.1 member with member | rfl
        · exact placed.operands statement member token operand
        · exact here token (List.mem_cons_of_mem _ operand)

theorem overflowsFor_defineLabel {reason : Prop} (name : String) :
    OverflowsFor reason (draft.defineLabel name) := by
  unfold defineLabel
  split
  · exact overflowsFor_failed _
  · exact overflowsFor_ok _

theorem Placed.yields_addLine (placed : draft.Placed stops) {first : Token} {rest : List Token}
    (here : ∀ token ∈ first :: rest, stops.Cover line token) :
    Yields stops (fun after => after.name = draft.name ∧ after.Placed stops)
      (draft.addLine line first rest) := by
  unfold addLine
  split
  next name _ =>
    have defined : Yields stops (fun after => after.name = draft.name ∧ after.Placed stops)
        (locate line first.column (draft.defineLabel name)) := by
      apply yields_locate (here first List.mem_cons_self).place (overflowsFor_defineLabel name)
      intro after labelled
      unfold defineLabel at labelled
      split at labelled
      next => cases labelled
      next =>
        cases labelled
        exact ⟨rfl, placed.opening, placed.mnemonics, placed.operands⟩
    refine defined.bind fun after labelled => ?_
    rw [← labelled.1]
    exact labelled.2.yields_append fun token member => here token (List.mem_cons_of_mem _ member)
  next => exact placed.yields_append here

theorem Placed.direct (placed : draft.Placed stops) {name : String} {arguments : List Token}
    {after : Draft} (changed : draft.direct name arguments = .ok after) : after.Placed stops := by
  obtain ⟨-, body, -, -, line, -⟩ := direct_keeps changed
  exact ⟨line ▸ placed.opening, body ▸ placed.mnemonics, body ▸ placed.operands⟩

end Draft

namespace State

variable {stops : Stops} {state : State} {sourceName : String} {line : Nat}

/-- The functions have different names, and the one that is open has a new name and stops only as is
allowed. -/
structure Sound (stops : Stops) (state : State) : Prop where
  distinct : state.routines.Pairwise fun one other => sameFold one.name other.name = false
  fresh : ∀ draft, state.current = some draft →
    ∀ routine ∈ state.routines, sameFold routine.name draft.name = false
  placed : ∀ draft, state.current = some draft → draft.Placed stops

theorem Sound.replaced (sound : state.Sound stops) {draft after : Draft}
    (busy : state.current = some draft) (name : after.name = draft.name)
    (placed : after.Placed stops) :
    Sound stops { state with current := some after } where
  distinct := sound.distinct
  fresh := by
    rintro _ ⟨⟩ routine member
    rw [name]
    exact sound.fresh draft busy routine member
  placed := by
    rintro _ ⟨⟩
    exact placed

theorem Sound.yields_direct (sound : state.Sound stops) {column : Nat} {name : String}
    {arguments : List Token} (here : stops.place line column) (opening : stops.place line 1)
    (covered : ∀ token ∈ arguments, stops.Cover line token) :
    Yields stops (Sound stops) (state.direct sourceName line column name arguments) := by
  unfold direct
  split
  next =>
    refine yields_locate here ?_ ?_
    · split
      next => exact overflowsFor_failed _
      next =>
        split
        · exact overflowsFor_failed _
        · exact overflowsFor_ok _
      next => exact overflowsFor_failed _
    · intro next opened
      split at opened
      next => cases opened
      next token idle _ =>
        split at opened
        next => cases opened
        next unknown =>
          cases opened
          refine ⟨sound.distinct, ?_, ?_⟩
          · rintro _ ⟨⟩ routine member
            simp only [List.any_eq_true, not_exists, not_and, Bool.not_eq_true] at unknown
            exact unknown routine member
          · rintro _ ⟨⟩
            exact ⟨opening, by simp [Draft.start], by simp [Draft.start]⟩
      next => cases opened
  next =>
    split
    next =>
      split
      next draft busy =>
        refine (sound.placed draft busy).yields_finish.bind fun routine name => ?_
        refine ⟨?_, by rintro _ ⟨⟩, by rintro _ ⟨⟩⟩
        refine List.pairwise_append.2 ⟨sound.distinct, List.pairwise_singleton _ _, ?_⟩
        intro earlier member last same
        rw [List.mem_singleton.1 same, name]
        exact sound.fresh draft busy earlier member
      next => exact here
    next =>
      refine yields_locate here ?_ ?_
      · split
        next draft _ =>
          refine overflowsFor_bind ?_ fun after => overflowsFor_ok _
          exact (draft.overflowsFor_direct name arguments).imp fun ⟨token, member, holds⟩ =>
            (covered token member).overflow holds
        next => exact overflowsFor_failed _
      · intro next changed
        split at changed
        next draft busy =>
          obtain ⟨after, direct, changed⟩ := bind_eq_ok.1 changed
          cases changed
          exact sound.replaced busy (Draft.direct_keeps direct).1
            ((sound.placed draft busy).direct direct)
        next => cases changed

theorem Sound.yields_addLine (sound : state.Sound stops) {text : String}
    (admitted : stops.Admit line text) :
    Yields stops (Sound stops) (state.addLine sourceName line text) := by
  refine (yields_tokenize admitted.place).bind fun tokens tokenized => ?_
  have covered : ∀ token ∈ tokens, stops.Cover line token := by
    intro token member
    obtain ⟨column, within⟩ := tokenized token member
    exact ⟨admitted.place _ column, fun holds => admitted.overflow (holds.of_infix within)⟩
  cases tokens with
  | nil => exact sound
  | cons first rest =>
    have here := (covered first List.mem_cons_self).place
    obtain ⟨positive, bounded⟩ := (tokenized first List.mem_cons_self).1
    have opening := admitted.place 1 ⟨Nat.le_refl 1, positive.trans bounded⟩
    dsimp only
    split
    next =>
      exact sound.yields_direct here opening fun token member =>
        covered token (List.mem_cons_of_mem _ member)
    next =>
      split
      next => exact here
      next draft busy =>
        refine ((sound.placed draft busy).yields_addLine covered).bind fun after added => ?_
        exact sound.replaced busy added.1 added.2

/-- Taking in lines, the first of which has number `line`. -/
theorem Sound.yields_addLines (sound : state.Sound stops) {texts : List String}
    (admitted : ∀ (i : Nat) text, texts[i]? = some text → stops.Admit (line + i) text) :
    Yields stops (Sound stops) (State.addLines sourceName line state texts) := by
  induction texts generalizing state line with
  | nil => exact sound
  | cons text rest ih =>
    refine (sound.yields_addLine (admitted 0 text rfl)).bind fun next kept => ?_
    refine ih kept fun i other listed => ?_
    have later := admitted (i + 1) other listed
    rwa [Nat.add_comm i 1, ← Nat.add_assoc] at later

end State

/-- A line of a text, counted from 1, and a column of that line; an overflow of a line of the text. -/
def stopsIn (source : String) : Stops where
  place line column :=
    ∃ text, 1 ≤ line ∧ (lines source)[line - 1]? = some text ∧ InLine text column
  overflow := ∃ text ∈ lines source, HoldsOverflow text.toList

theorem yields_assemble (sourceName source : String) :
    Yields (stopsIn source)
      (fun program => program.routines.Pairwise fun one other => sameFold one.name other.name = false)
      (assemble sourceName source) := by
  have start : (⟨[], none⟩ : State).Sound (stopsIn source) :=
    ⟨.nil, by rintro _ ⟨⟩, by rintro _ ⟨⟩⟩
  have admitted (i : Nat) (text : String) (listed : (lines source)[i]? = some text) :
      (stopsIn source).Admit (1 + i) text := by
    refine ⟨fun column within => ?_, fun holds => ⟨text, List.mem_of_getElem? listed, holds⟩⟩
    exact ⟨text, Nat.le_add_right 1 i, by rwa [Nat.add_sub_cancel_left], within⟩
  refine (start.yields_addLines admitted).bind fun state sound => ?_
  split
  next draft busy => exact (sound.placed draft busy).opening
  next => exact sound.distinct

/-! ### Loading what was assembled -/

theorem failsOnly_mapM {faults : Fault → Prop} {f : α → Except Fault β} {values : List α}
    (fails : ∀ value ∈ values, FailsOnly faults (f value)) : FailsOnly faults (values.mapM f) := by
  induction values with
  | nil => exact failsOnly_pure []
  | cons value rest ih =>
    rw [List.mapM_cons]
    refine failsOnly_bind (fails value List.mem_cons_self) fun first => ?_
    refine failsOnly_bind (ih fun other member => fails other (List.mem_cons_of_mem _ member)) ?_
    exact fun others => failsOnly_pure _

def Unresolved (fault : Fault) : Prop :=
  ∃ name, fault = .undefinedFunction name ∨ fault = .undefinedClass name

theorem failsOnly_resolve {library : Library ν} {classes : Classes}
    {planned : List (String × FunctionId)} (symbol : Symbol) :
    FailsOnly Unresolved (library.resolve classes planned symbol) := by
  cases symbol with
  | null => exact failsOnly_ok _
  | function name =>
    simp only [Library.resolve]
    split
    next => exact failsOnly_ok _
    next =>
      split
      next => exact failsOnly_ok _
      next => exact failsOnly_error ⟨name, .inl rfl⟩
  | class_ name =>
    simp only [Library.resolve]
    split
    next => exact failsOnly_ok _
    next => exact failsOnly_error ⟨name, .inr rfl⟩

/-- Routines with different names are only refused for what they refer to. -/
theorem failsOnly_load {library : Library ν} {classes : Classes} {program : Program}
    (distinct : program.routines.Pairwise fun one other => sameFold one.name other.name = false) :
    FailsOnly Unresolved (library.load classes program) := by
  have apart : (program.routines.map (fold ·.name)).Nodup := by
    rw [List.nodup_iff_pairwise_ne, List.pairwise_map]
    exact distinct.imp fun differ same => by simp [sameFold, same] at differ
  obtain ⟨planned, plan⟩ : ∃ planned,
      library.plan [] (UInt32.ofNat library.size) program.routines = .ok planned :=
    Library.exists_plan_iff.2 ⟨apart, by simp⟩
  unfold Library.load
  rw [plan]
  refine failsOnly_bind (failsOnly_ok _) fun _ => failsOnly_bind ?_ fun _ => failsOnly_pure _
  apply failsOnly_mapM
  intro routine _
  refine failsOnly_bind (failsOnly_mapM ?_) fun _ => failsOnly_pure _
  exact fun symbol _ => failsOnly_resolve symbol

/-- A text gives a program whose functions have different names, which no library refuses as having
duplicates, or it fails at a column of one of its lines, and that line is shown. Or it gives neither,
which it only does when one of its lines holds a minus sign before the least integer. -/
theorem assemble_locates_failures (sourceName source : String) :
    match assemble sourceName source with
    | .ok program =>
      (program.routines.Pairwise fun one other => sameFold one.name other.name = false) ∧
        ∀ (ν : Type) (library : Library ν) (classes : Classes) (name : String),
          library.load classes program ≠ .error (.duplicateFunction name)
    | .error (.failed failure) =>
      ∃ text, 1 ≤ failure.line ∧ failure.line ≤ (lines source).length ∧
        (lines source)[failure.line - 1]? = some text ∧
        1 ≤ failure.column ∧ failure.column ≤ text.utf8ByteSize ∧
        ∀ file, failure.diagnostic file source =
          s!"error: {failure.cause.message}\n --> {file}:{failure.line}:{failure.column}\n" ++
            "  |\n" ++ padLeft 4 (toString failure.line) ++ " | " ++ withoutReturns text ++ "\n  | " ++
            String.ofList (List.replicate (failure.column - 1) ' ') ++ "^\n"
    | .error .overflow =>
      ∃ text ∈ lines source, ∃ part, part <:+: text.toList ∧ NegatesLeast part := by
  have yields := yields_assemble sourceName source
  cases result : assemble sourceName source with
  | ok program =>
    rw [result] at yields
    refine ⟨yields, fun ν library classes name load => ?_⟩
    obtain ⟨other, named | named⟩ := failsOnly_load yields _ load
    · cases named
    · cases named
  | error halt =>
    rw [result] at yields
    cases halt with
    | overflow => exact yields
    | failed failure =>
      obtain ⟨text, first, listed, positive, bounded⟩ := yields
      have last := (List.getElem?_eq_some_iff.1 listed).1
      refine ⟨text, first, by omega, listed, positive, bounded, fun file => ?_⟩
      simp only [Failure.diagnostic, diagnostic, listed]

/-- The text neither assembles nor fails at a place. -/
theorem negated_least_not_located :
    assemble anonymous ".func Main\nLKF f0, --9223372036854775808\nRETI 0!, 0\n.end\n" =
      .error .overflow := by
  decide +kernel

end GameScript.Assembly
