import GameScript.Assembly.Draft
import GameScript.Text.Lines

/-! Assembly text as a program. A line is empty, a directive, or an optional label with an optional
instruction; functions stand between `.func` and `.end`. -/

namespace GameScript.Assembly

/-- The functions finished so far and the one that is open. -/
structure State where
  routines : List Routine
  current : Option Draft
deriving DecidableEq, Repr

def argument? : List Token → Except (Halt Cause) (Option Int)
  | [token] => integer? token.text
  | _ => .ok none

/-- The single number a directive takes, which must fit 32 bits. -/
def directiveNumber (name : String) (arguments : List Token) : Except (Halt Cause) UInt32 := do
  let value? ← argument? arguments
  match value?.filter fun (value : Int) => decide (0 ≤ value ∧ value < UInt32.size) with
  | some value => .ok (UInt32.ofNat value.toNat)
  | none => .error (.failed (.directiveNumber name))

def Draft.direct (draft : Draft) (name : String) (arguments : List Token) :
    Except (Halt Cause) Draft :=
  if name == "file" then
    match arguments with
    | [token] =>
      if token.text.toList.head? = some '"' then do
        let sourceFile ← string token.text
        return { draft with sourceFile }
      else .ok { draft with sourceFile := token.text }
    | _ => .error (.failed .filePath)
  else if name == "line" then do
    let line ← directiveNumber name arguments
    return { draft with sourceLine := some line }
  else if name == "extra" then do
    let extraSpace ← directiveNumber name arguments
    return { draft with extraSpace }
  else if name == "maxparam" then do
    let count ← directiveNumber name arguments
    if count.toNat < UInt16.size then .ok { draft with maxParam := some count.toUInt16 }
    else .error (.failed (.field (.outOfRange count.toNat 16)))
  else .error (.failed (.unknownDirective name))

def labelName? (token : String) : Option String :=
  match token.toList.reverse with
  | ':' :: c :: name =>
    let name := (c :: name).reverse
    if name.head? = some '"' then none else some (String.ofList name)
  | _ => none

def locate (line column : Nat) : Except (Halt Cause) α → Except (Halt Failure) α :=
  Except.mapError (Halt.map fun cause => ⟨line, column, cause⟩)

def State.direct (state : State) (sourceName : String) (line column : Nat) (name : String)
    (arguments : List Token) : Except (Halt Failure) State :=
  if name == "func" then
    locate line column <|
      match state.current, arguments with
      | some draft, _ => .error (.failed (.missingEnd draft.name))
      | none, [token] =>
        if state.routines.any fun routine => Text.sameFold routine.name token.text then
          .error (.failed (.duplicateFunction token.text))
        else .ok { state with current := some (.start token.text sourceName line) }
      | none, _ => .error (.failed .functionName)
  else if name == "end" then
    match state.current with
    | some draft => do
      let routine ← draft.finish
      return ⟨state.routines ++ [routine], none⟩
    | none => .error (.failed ⟨line, column, .endOutside⟩)
  else
    locate line column <|
      match state.current with
      | some draft => do
        let draft ← draft.direct name arguments
        return { state with current := some draft }
      | none => .error (.failed (.directiveOutside name))

def Draft.append (draft : Draft) (line : Nat) : List Token → Except (Halt Failure) Draft
  | [] => .ok draft
  | mnemonic :: operands =>
    match Instruction.ofMnemonic? mnemonic.text with
    | none => .error (.failed ⟨line, mnemonic.column, .unknownMnemonic mnemonic.text⟩)
    | some instruction =>
      let sourceLine := draft.sourceLine.getD (UInt32.ofNat line)
      .ok { draft with
        body := draft.body.push ⟨line, sourceLine, instruction, mnemonic.column, operands⟩ }

def Draft.addLine (draft : Draft) (line : Nat) (first : Token) (rest : List Token) :
    Except (Halt Failure) Draft :=
  match labelName? first.text with
  | some name => do
    let draft ← locate line first.column (draft.defineLabel name)
    draft.append line rest
  | none => draft.append line (first :: rest)

def State.addLine (state : State) (sourceName : String) (line : Nat) (text : String) :
    Except (Halt Failure) State := do
  match ← tokenize line text with
  | [] => return state
  | first :: rest =>
    match first.text.toList with
    | '.' :: name =>
      state.direct sourceName line first.column (Text.fold (String.ofList name)) rest
    | _ =>
      match state.current with
      | none => .error (.failed ⟨line, first.column, .codeOutside⟩)
      | some draft => do
        let draft ← draft.addLine line first rest
        return { state with current := some draft }

/-- Takes in lines, the first of which has number `line`. -/
def State.addLines (sourceName : String) (line : Nat) (state : State) :
    List String → Except (Halt Failure) State
  | [] => .ok state
  | text :: rest => do
    let state ← state.addLine sourceName line text
    State.addLines sourceName (line + 1) state rest

/-- The program a text stands for. `sourceName` is the file of functions that name none. -/
def assemble (sourceName source : String) : Except (Halt Failure) Program := do
  let state ← State.addLines sourceName 1 ⟨[], none⟩ (Text.lines source)
  match state.current with
  | some draft => .error (.failed ⟨draft.line, 1, .unfinished draft.name⟩)
  | none => return ⟨state.routines⟩

def anonymous : String := "<source>"

end GameScript.Assembly
