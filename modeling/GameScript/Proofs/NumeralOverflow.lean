import GameScript.Assembly.Source
import GameScript.Proofs.IntegerTokens

/-! Where assembling overflows. The only arithmetic that can is the negation of an integer, so whatever
stops at an overflow has read a minus sign before the least integer: as a whole token, as a token
without its exclamation mark, or between the parentheses of one. -/

namespace GameScript.Assembly

open Text

/-- Somewhere in the characters, a minus sign stands before the least integer. -/
def HoldsOverflow (chars : List Char) : Prop := ∃ part, part <:+: chars ∧ NegatesLeast part

theorem HoldsOverflow.of_infix {chars whole : List Char} (holds : HoldsOverflow chars)
    (within : chars <:+: whole) : HoldsOverflow whole := by
  obtain ⟨part, inside, negates⟩ := holds
  exact ⟨part, inside.trans within, negates⟩

def OverflowsFor (reason : Prop) (result : Except (Halt ε) α) : Prop :=
  result = .error .overflow → reason

section OverflowsFor

variable {reason : Prop}

theorem overflowsFor_ok (value : α) : OverflowsFor reason (.ok value : Except (Halt ε) α) := nofun

theorem overflowsFor_failed (error : ε) :
    OverflowsFor reason (.error (.failed error) : Except (Halt ε) α) := nofun

theorem overflowsFor_lift (result : Except ε α) :
    OverflowsFor reason (liftM result : Except (Halt ε) α) := by
  cases result with
  | ok value => exact overflowsFor_ok value
  | error error => exact overflowsFor_failed error

theorem overflowsFor_bind {first : Except (Halt ε) α} {next : α → Except (Halt ε) β}
    (overflows : OverflowsFor reason first) (rest : ∀ value, OverflowsFor reason (next value)) :
    OverflowsFor reason (first >>= next) := by
  cases first with
  | ok value => exact rest value
  | error halt =>
    intro stopped
    cases stopped
    exact overflows rfl

theorem OverflowsFor.imp {other : Prop} {result : Except (Halt ε) α}
    (overflows : OverflowsFor reason result) (implies : reason → other) : OverflowsFor other result :=
  fun stopped => implies (overflows stopped)

theorem overflowsFor_mapM {f : α → Except (Halt ε) β} {values : List α}
    (overflows : ∀ value ∈ values, OverflowsFor reason (f value)) :
    OverflowsFor reason (values.mapM f) := by
  induction values with
  | nil => exact overflowsFor_ok []
  | cons value rest ih =>
    rw [List.mapM_cons]
    refine overflowsFor_bind (overflows value List.mem_cons_self) fun first => ?_
    refine overflowsFor_bind (ih fun other member => overflows other (List.mem_cons_of_mem _ member)) ?_
    exact fun others => overflowsFor_ok _

end OverflowsFor

variable {token : String}

/-! ### Single operands -/

theorem overflowsFor_integer? : OverflowsFor (HoldsOverflow token.toList) (integer? token) :=
  fun stopped => ⟨_, List.infix_rfl, (integer?_eq_error_iff.1 stopped).2⟩

theorem overflowsFor_integer : OverflowsFor (HoldsOverflow token.toList) (integer token) :=
  fun stopped => ⟨_, List.infix_rfl, integer_eq_overflow_iff.1 stopped⟩

theorem overflowsFor_float : OverflowsFor (HoldsOverflow token.toList) (float token) := by
  refine overflowsFor_bind (overflowsFor_bind overflowsFor_integer? fun integer => ?_) fun found => ?_
  · cases integer with
    | some value => exact overflowsFor_ok _
    | none => exact overflowsFor_ok _
  · cases found with
    | some value => exact overflowsFor_ok value
    | none => exact overflowsFor_failed _

theorem overflowsFor_compareFlags : OverflowsFor (HoldsOverflow token.toList) (compareFlags token) := by
  refine overflowsFor_bind overflowsFor_integer? fun found => ?_
  cases found with
  | some value => exact overflowsFor_ok value
  | none =>
    dsimp only
    split
    · exact overflowsFor_ok _
    · exact overflowsFor_failed _

theorem overflowsFor_selector (literal : Literal) (named? : Option Nat) :
    OverflowsFor (HoldsOverflow token.toList) (selector literal named? token) := by
  cases named? with
  | some value => exact overflowsFor_ok _
  | none =>
    refine overflowsFor_bind overflowsFor_integer? fun found => ?_
    cases found with
    | some value => exact overflowsFor_ok value
    | none => exact overflowsFor_failed _

theorem overflowsFor_returnSlot : OverflowsFor (HoldsOverflow token.toList) (returnSlot token) := by
  have slot {digits : String} {final : Bool} (within : digits.toList <:+: token.toList) :
      OverflowsFor (HoldsOverflow token.toList) (integer digits >>= fun slot =>
        if 0 ≤ slot ∧ slot < 128 then
          Except.ok ((ReturnField.of (UInt8.ofNat slot.toNat) final).bits.toNat : Int)
        else .error (.failed (.field (.outOfRange slot 7)))) := by
    refine overflowsFor_bind (overflowsFor_integer.imp fun holds => holds.of_infix within) fun slot => ?_
    split
    · exact overflowsFor_ok _
    · exact overflowsFor_failed _
  unfold returnSlot
  dsimp only
  split
  next body reversed =>
    apply slot
    rw [String.toList_ofList, List.reverse_eq_cons_iff.1 reversed]
    exact (List.prefix_append _ _).isInfix
  next => exact slot List.infix_rfl

theorem infix_of_mem_splitCommas {held chars part : List Char} (member : part ∈ splitCommas held chars) :
    part <:+: held.reverse ++ chars := by
  induction chars generalizing held with
  | nil =>
    obtain rfl := List.mem_singleton.1 member
    exact (List.prefix_append _ _).isInfix
  | cons c rest ih =>
    unfold splitCommas at member
    split at member
    next =>
      rcases List.mem_cons.1 member with rfl | later
      · exact (List.prefix_append _ _).isInfix
      · exact (ih later).trans (List.suffix_append_of_suffix (List.suffix_cons c rest)).isInfix
    next =>
      have inside := ih member
      rwa [List.reverse_cons, List.append_assoc, List.singleton_append] at inside

theorem trim_infix (text : String) : (trim text).toList <:+: text.toList := by
  rw [trim, String.toList_ofList]
  refine List.IsInfix.trans ?_ (List.dropWhile_suffix isBlank).isInfix
  rw [← List.reverse_infix, trimEnd, List.reverse_reverse]
  exact (List.dropWhile_suffix isBlank).isInfix

theorem overflowsFor_floatTuple : OverflowsFor (HoldsOverflow token.toList) (floatTuple token) := by
  unfold floatTuple
  split
  next => exact overflowsFor_bind overflowsFor_float fun value => overflowsFor_ok _
  next inner enclosed =>
    have inside : inner <:+: token.toList := by
      rw [parenthesized?_eq_some enclosed]
      exact ⟨['('], [')'], by simp⟩
    refine overflowsFor_bind (overflowsFor_mapM fun part member => ?_) fun values => ?_
    · refine overflowsFor_float.imp fun holds => holds.of_infix ?_
      have trimmed := trim_infix (String.ofList part)
      rw [String.toList_ofList] at trimmed
      exact trimmed.trans ((infix_of_mem_splitCommas member).trans inside)
    · split
      · exact overflowsFor_failed _
      · exact overflowsFor_ok values

/-! ### Operands of words -/

namespace Pools

variable {pools : Pools}

theorem overflowsFor_internConstant (bank : Bank) :
    OverflowsFor (HoldsOverflow token.toList) (pools.internConstant bank token) := by
  cases bank with
  | int =>
    refine overflowsFor_bind overflowsFor_integer fun number => ?_
    exact overflowsFor_bind (overflowsFor_lift _) fun value => overflowsFor_ok _
  | float => exact overflowsFor_bind overflowsFor_floatTuple fun values => overflowsFor_ok _
  | string => exact overflowsFor_bind (overflowsFor_lift _) fun text => overflowsFor_ok _
  | pointer => exact overflowsFor_bind (overflowsFor_lift _) fun symbol => overflowsFor_ok _

theorem overflowsFor_internLiteral :
    OverflowsFor (HoldsOverflow token.toList) (pools.internLiteral token) := by
  unfold internLiteral
  split
  next => exact overflowsFor_bind (overflowsFor_lift _) fun text => overflowsFor_ok _
  next =>
    split
    next => exact overflowsFor_ok _
    next =>
      refine overflowsFor_bind overflowsFor_integer? fun found => ?_
      cases found with
      | some value => exact overflowsFor_bind (overflowsFor_lift _) fun value => overflowsFor_ok _
      | none => exact overflowsFor_bind overflowsFor_float fun value => overflowsFor_ok _

theorem overflowsFor_tagged : OverflowsFor (HoldsOverflow token.toList) (pools.tagged token) := by
  unfold tagged
  split
  next => exact overflowsFor_ok _
  next =>
    split
    next => exact overflowsFor_bind (overflowsFor_lift _) fun _ => overflowsFor_ok _
    next => exact overflowsFor_bind (overflowsFor_lift _) fun _ => overflowsFor_ok _
    next => exact overflowsFor_bind (overflowsFor_lift _) fun _ => overflowsFor_ok _
    next =>
      split
      next => exact overflowsFor_ok _
      next => exact overflowsFor_bind overflowsFor_internLiteral fun _ => overflowsFor_ok _

end Pools

namespace Draft

variable {draft : Draft} {place : Nat} {field : Field} {expected : Option (Bank × Nat)} {word : Word}
  {pools : Pools} {reason : Prop}

theorem overflowsFor_placed (result : Except FieldFault Word) : OverflowsFor reason (placed result) := by
  cases result with
  | ok word => exact overflowsFor_ok word
  | error fault => exact overflowsFor_failed _

theorem overflowsFor_number {value : Except (Halt Cause) Int} (overflows : OverflowsFor reason value) :
    OverflowsFor reason (do
      let value ← value
      let word ← placed (word.withUnsigned field value)
      return (word, pools)) :=
  overflowsFor_bind overflows fun _ =>
    overflowsFor_bind (overflowsFor_placed _) fun _ => overflowsFor_ok _

theorem overflowsFor_useRegister (bank : Bank) (width : Nat) :
    OverflowsFor reason (do
      let index ← (register bank token : Except Cause Int)
      let word ← placed (word.withUnsigned field index)
      return (word, pools.useRegister bank index width) : Except (Halt Cause) (Word × Pools)) :=
  overflowsFor_bind (overflowsFor_lift _) fun _ =>
    overflowsFor_bind (overflowsFor_placed _) fun _ => overflowsFor_ok _

theorem overflowsFor_displacement :
    OverflowsFor (HoldsOverflow token.toList) (draft.displacement place token) := by
  refine overflowsFor_bind overflowsFor_integer? fun found => ?_
  cases found with
  | some value => exact overflowsFor_ok value
  | none =>
    dsimp only [distance]
    split
    · exact overflowsFor_ok _
    · exact overflowsFor_failed _

theorem overflowsFor_encodeOperand (kind : OperandKind) :
    OverflowsFor (HoldsOverflow token.toList)
      (draft.encodeOperand place field kind expected token word pools) := by
  cases kind with
  | register bank => exact overflowsFor_useRegister bank 1
  | vector dimension => exact overflowsFor_useRegister .float dimension.size
  | anyRegister =>
    cases expected with
    | some asked => exact overflowsFor_useRegister asked.1 asked.2
    | none =>
      refine overflowsFor_bind (overflowsFor_lift _) fun found => ?_
      exact overflowsFor_bind (overflowsFor_placed _) fun _ => overflowsFor_ok _
  | constant bank =>
    refine overflowsFor_bind (Pools.overflowsFor_internConstant bank) fun found => ?_
    exact overflowsFor_bind (overflowsFor_placed _) fun _ => overflowsFor_ok _
  | unsigned => exact overflowsFor_number overflowsFor_integer
  | signed =>
    refine overflowsFor_bind overflowsFor_integer fun value => ?_
    exact overflowsFor_bind (overflowsFor_placed _) fun _ => overflowsFor_ok _
  | displacement =>
    refine overflowsFor_bind overflowsFor_displacement fun value => ?_
    exact overflowsFor_bind (overflowsFor_placed _) fun _ => overflowsFor_ok _
  | tagged =>
    refine overflowsFor_bind Pools.overflowsFor_tagged fun found => ?_
    exact overflowsFor_bind (overflowsFor_placed _) fun _ => overflowsFor_ok _
  | returnSlot => exact overflowsFor_number overflowsFor_returnSlot
  | compareFlags => exact overflowsFor_number overflowsFor_compareFlags
  | conversion => exact overflowsFor_number (overflowsFor_selector _ _)
  | truthTest => exact overflowsFor_number (overflowsFor_selector _ _)
  | floatFunction => exact overflowsFor_number (overflowsFor_selector _ _)
  | abortKind => exact overflowsFor_number (overflowsFor_selector _ _)

/-! ### Directives -/

def AnyOverflow (tokens : List Token) : Prop := ∃ token ∈ tokens, HoldsOverflow token.text.toList

theorem overflowsFor_directiveNumber (name : String) (arguments : List Token) :
    OverflowsFor (AnyOverflow arguments) (directiveNumber name arguments) := by
  have argument : OverflowsFor (AnyOverflow arguments) (argument? arguments) := by
    match arguments with
    | [] | _ :: _ :: _ => exact overflowsFor_ok none
    | [token] => exact overflowsFor_integer?.imp fun holds => ⟨token, List.mem_cons_self, holds⟩
  refine overflowsFor_bind argument fun value? => ?_
  · split
    · exact overflowsFor_ok _
    · exact overflowsFor_failed _

theorem overflowsFor_direct (draft : Draft) (name : String) (arguments : List Token) :
    OverflowsFor (AnyOverflow arguments) (draft.direct name arguments) := by
  have number := overflowsFor_directiveNumber name arguments
  unfold direct
  split
  next =>
    match arguments with
    | [] | _ :: _ :: _ => exact overflowsFor_failed _
    | [token] =>
      dsimp only
      split
      · exact overflowsFor_bind (overflowsFor_lift _) fun _ => overflowsFor_ok _
      · exact overflowsFor_ok _
  split
  next => exact overflowsFor_bind number fun _ => overflowsFor_ok _
  split
  next => exact overflowsFor_bind number fun _ => overflowsFor_ok _
  split
  next =>
    refine overflowsFor_bind number fun count => ?_
    split
    · exact overflowsFor_ok _
    · exact overflowsFor_failed _
  next => exact overflowsFor_failed _

end Draft
end GameScript.Assembly
