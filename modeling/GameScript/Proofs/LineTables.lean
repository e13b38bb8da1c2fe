import GameScript.Proofs.AssembledCode

/-! The lines of instructions. A table leaves out entries that repeat a line and overwrites one that
has no instruction, yet every offset has the line recorded last at or before it. So an instruction
has the line that the text of its function gives it. -/

namespace GameScript

/-- The line of the last of some records that starts at or before an offset. -/
def lastLine (records : List (UInt32 × UInt32)) (offset : Nat) : Option UInt32 :=
  (records.filter fun record => record.1.toNat ≤ offset).getLast?.map Prod.snd

theorem lastLine_concat (records : List (UInt32 × UInt32)) (start line : UInt32) (offset : Nat) :
    lastLine (records ++ [(start, line)]) offset =
      if start.toNat ≤ offset then some line else lastLine records offset := by
  rw [lastLine, List.filter_append]
  split
  next here => simp [here]
  next later => simp [later, lastLine]

theorem filter_eq_take {items : List α} {holds : α → Bool} {count : Nat}
    (first : ∀ (position : Nat) item, items[position]? = some item →
      (holds item = true ↔ position < count)) : items.filter holds = items.take count := by
  induction items generalizing count with
  | nil => simp
  | cons item rest ih =>
    have here := first 0 item rfl
    cases count with
    | zero =>
      rw [List.filter_cons_of_neg (by rw [here]; exact Nat.lt_irrefl 0),
        ih fun position other there => ?_]
      · rw [List.take_zero, List.take_zero]
      · exact (first (position + 1) other there).trans (by simp)
    | succ count =>
      rw [List.filter_cons_of_pos (here.2 (Nat.succ_pos count)), List.take_succ_cons,
        ih fun position other there => (first (position + 1) other there).trans Nat.succ_lt_succ_iff]

namespace LineTable

/-- Halving ends at the last position that is covered, or at the first one if none is. -/
theorem bisect_spec {covers : Nat → Bool}
    (lower : ∀ low high, low ≤ high → covers high = true → covers low = true) (base size : Nat)
    (nonempty : 0 < size) :
    base ≤ bisect covers base size ∧ bisect covers base size < base + size ∧
      (bisect covers base size = base ∨ covers (bisect covers base size) = true) ∧
      ∀ position, bisect covers base size < position → position < base + size →
        covers position = false := by
  fun_induction bisect covers base size with
  | case1 base size more middle ih =>
    have half : middle = base + size / 2 := rfl
    obtain ⟨least, most, covered, above⟩ := ih (by omega)
    cases upper : covers middle with
    | true =>
      simp only [upper, dite_true, if_true] at least most covered above ⊢
      refine ⟨by omega, by omega, .inr ?_, fun position after inside => above position after (by omega)⟩
      rcases covered with same | covered
      · rwa [same]
      · exact covered
    | false =>
      simp only [upper, Bool.false_eq_true, dite_false, if_false] at least most covered above ⊢
      refine ⟨least, by omega, covered, fun position after inside => ?_⟩
      by_cases near : position < base + (size - size / 2)
      · exact above position after near
      · -- what is behind the middle is not covered if the middle is not
        refine Bool.eq_false_iff.2 fun reached => ?_
        cases upper.symm.trans (lower middle position (by omega) reached)
  | case2 base size single =>
    exact ⟨Nat.le_refl _, by omega, .inl rfl, fun position after inside => by omega⟩

def Sorted (table : LineTable) : Prop :=
  table.entries.toList.Pairwise fun earlier later => earlier.offset < later.offset

variable {table : LineTable}

theorem Sorted.le (sorted : table.Sorted) {low high : Nat} {earlier later : LineEntry}
    (le : low ≤ high) (first : table.entries[low]? = some earlier)
    (last : table.entries[high]? = some later) : earlier.offset.toNat ≤ later.offset.toNat := by
  rcases Nat.lt_or_eq_of_le le with before | rfl
  · obtain ⟨inside, rfl⟩ := Array.getElem?_eq_some_iff.1 first
    obtain ⟨bound, rfl⟩ := Array.getElem?_eq_some_iff.1 last
    have grows := List.pairwise_iff_getElem.1 sorted low high inside bound before
    exact Nat.le_of_lt (UInt32.lt_iff_toNat_lt.1 grows)
  · cases first.symm.trans last
    exact Nat.le_refl _

/-- The entries at or before an offset are the first ones of a sorted table. -/
theorem countUpTo_spec (sorted : table.Sorted) (offset : Nat) :
    table.countUpTo offset ≤ table.entries.size ∧
      ∀ position entry, table.entries[position]? = some entry →
        (entry.offset.toNat ≤ offset ↔ position < table.countUpTo offset) := by
  unfold countUpTo
  extract_lets covers last
  have covers_iff : ∀ position entry, table.entries[position]? = some entry →
      (covers position = true ↔ entry.offset.toNat ≤ offset) := by
    intro position entry there
    simp only [covers, there, decide_eq_true_iff]
  have lower : ∀ low high, low ≤ high → covers high = true → covers low = true := by
    intro low high le covered
    cases there : table.entries[high]? with
    | none => simp [covers, there] at covered
    | some later =>
      have inside := Nat.lt_of_le_of_lt le (Array.getElem?_eq_some_iff.1 there).1
      have first := Array.getElem?_eq_getElem inside
      exact (covers_iff low _ first).2
        (Nat.le_trans (sorted.le le first there) ((covers_iff high later there).1 covered))
  by_cases empty : table.entries.isEmpty
  · rw [if_pos empty]
    refine ⟨Nat.zero_le _, fun position entry there => ?_⟩
    rw [Array.isEmpty_iff.1 empty] at there
    cases there
  rw [if_neg empty]
  have nonempty : 0 < table.entries.size := by
    rw [Array.isEmpty_iff_size_eq_zero] at empty
    omega
  obtain ⟨most, covered, above⟩ : last < table.entries.size ∧ (last = 0 ∨ covers last = true) ∧
      ∀ position, last < position → position < table.entries.size → covers position = false := by
    simpa using (bisect_spec lower 0 table.entries.size nonempty).2
  clear_value last
  have behind : ∀ position entry, table.entries[position]? = some entry →
      last < position → ¬entry.offset.toNat ≤ offset := by
    intro position entry there after
    rw [← covers_iff position entry there,
      above position after (Array.getElem?_eq_some_iff.1 there).1]
    exact Bool.false_ne_true
  split
  next reached =>
    refine ⟨most, fun position entry there => ⟨fun before => ?_, fun before => ?_⟩⟩
    · exact Nat.lt_succ_of_le (Nat.le_of_not_lt fun after => behind position entry there after before)
    · exact (covers_iff position entry there).1 (lower _ _ (Nat.le_of_lt_succ before) reached)
  next missed =>
    obtain rfl := covered.resolve_right missed
    refine ⟨Nat.zero_le _, fun position entry there => iff_of_false ?_ (Nat.not_lt_zero _)⟩
    rcases Nat.eq_zero_or_pos position with rfl | after
    · rwa [← covers_iff 0 entry there]
    · exact behind position entry there after

def found (entries : List LineEntry) (offset : Nat) : Option UInt32 :=
  (entries.filter fun entry => entry.offset.toNat ≤ offset).getLast?.map LineEntry.line

theorem lineFor_eq (sorted : table.Sorted) (offset : Nat) :
    table.lineFor offset = found table.entries.toList offset := by
  obtain ⟨most, first⟩ := countUpTo_spec sorted offset
  have taken : (table.entries.toList.filter fun entry => entry.offset.toNat ≤ offset) =
      table.entries.toList.take (table.countUpTo offset) := by
    refine filter_eq_take fun position entry there => ?_
    rw [Array.getElem?_toList] at there
    rw [decide_eq_true_iff]
    exact first position entry there
  rw [found, taken, lineFor, List.getLast?_take]
  cases counted : table.countUpTo offset with
  | zero => rfl
  | succ last =>
    rw [counted] at most
    rw [if_neg (Nat.succ_ne_zero last), Nat.add_sub_cancel, Array.getElem?_toList]
    dsimp only
    rw [Array.getElem?_eq_getElem most, Option.some_or]

theorem found_concat (front : List LineEntry) (last : LineEntry) (offset : Nat) :
    found (front ++ [last]) offset =
      if last.offset.toNat ≤ offset then some last.line else found front offset := by
  rw [found, List.filter_append]
  split
  next here => simp [here]
  next later => simp [later, found]

/-- What a record does to the entries. -/
theorem push_cases (table : LineTable) (offset line : UInt32) :
    (table.entries.toList = [] ∧ (table.push offset line).entries.toList = [⟨offset, line⟩]) ∨
    ∃ front last, table.entries.toList = front ++ [last] ∧
      (table.push offset line).entries.toList =
        if last.line = line then front ++ [last]
        else if last.offset = offset then front ++ [⟨offset, line⟩]
        else front ++ [last] ++ [⟨offset, line⟩] := by
  unfold push
  cases ended : table.entries.back? with
  | none =>
    have none : table.entries = #[] := Array.back?_eq_none_iff.1 ended
    exact .inl (by simp [none])
  | some last =>
    obtain ⟨front, same⟩ := Array.back?_eq_some_iff.1 ended
    refine .inr ⟨front.toList, last, by simp [same], ?_⟩
    dsimp only
    split
    next => simp [same]
    next => split <;> simp [same]

section Push

variable {offset line : UInt32} (late : ∀ entry ∈ table.entries.toList, entry.offset ≤ offset)
include late

theorem sorted_push (sorted : table.Sorted) : (table.push offset line).Sorted := by
  rcases push_cases table offset line with ⟨-, one⟩ | ⟨front, last, all, pushed⟩
  · rw [Sorted, one]
    exact List.pairwise_singleton _ _
  rw [all] at late
  rw [Sorted, all] at sorted
  obtain ⟨former, -, below⟩ := List.pairwise_append.1 sorted
  have final : last.offset ≤ offset := late last (by simp)
  rw [Sorted, pushed]
  split
  next => exact sorted
  next =>
    split
    next here =>
      subst here
      refine List.pairwise_append.2
        ⟨former, List.pairwise_singleton _ _, fun entry member other new => ?_⟩
      rw [List.mem_singleton.1 new]
      exact below entry member last (.head _)
    next apart =>
      have next : last.offset < offset := UInt32.lt_of_le_of_ne final apart
      refine List.pairwise_append.2
        ⟨sorted, List.pairwise_singleton _ _, fun entry member other new => ?_⟩
      rw [List.mem_singleton.1 new]
      rcases List.mem_append.1 member with old | same
      · exact UInt32.lt_trans (below entry old last (.head _)) next
      · rwa [List.mem_singleton.1 same]

theorem found_push (query : Nat) : found (table.push offset line).entries.toList query =
    if offset.toNat ≤ query then some line else found table.entries.toList query := by
  rcases push_cases table offset line with ⟨none, one⟩ | ⟨front, last, all, pushed⟩
  · rw [one, none]
    exact found_concat [] _ query
  have final : last.offset.toNat ≤ offset.toNat := UInt32.le_iff_toNat_le.1 (late last (by simp [all]))
  rw [pushed, all]
  split
  next same =>
    split
    next reached => rw [found_concat, if_pos (Nat.le_trans final reached), same]
    next => rfl
  next =>
    split
    next here =>
      subst here
      rw [found_concat, found_concat]
      split <;> rfl
    next => exact found_concat _ _ query

end Push

theorem offset_of_mem_push {offset line : UInt32} {entry : LineEntry}
    (member : entry ∈ (table.push offset line).entries.toList) :
    entry ∈ table.entries.toList ∨ entry.offset = offset := by
  rcases push_cases table offset line with ⟨-, one⟩ | ⟨front, last, all, pushed⟩
  · rw [one] at member
    exact .inr (by rw [List.mem_singleton.1 member])
  rw [pushed] at member
  rw [all]
  split at member
  next => exact .inl member
  next =>
    split at member <;> rcases List.mem_append.1 member with old | new
    · exact .inl (List.mem_append_left _ old)
    · exact .inr (by rw [List.mem_singleton.1 new])
    · exact .inl old
    · exact .inr (by rw [List.mem_singleton.1 new])

structure Keeps (table : LineTable) (records : List (UInt32 × UInt32)) : Prop where
  sorted : table.Sorted
  recorded : ∀ entry ∈ table.entries.toList, ∃ line, (entry.offset, line) ∈ records
  found : ∀ offset, found table.entries.toList offset = lastLine records offset

theorem Keeps.push {records : List (UInt32 × UInt32)} {offset line : UInt32}
    (keeps : table.Keeps records) (late : ∀ record ∈ records, record.1 ≤ offset) :
    (table.push offset line).Keeps (records ++ [(offset, line)]) := by
  have before : ∀ entry ∈ table.entries.toList, entry.offset ≤ offset := by
    intro entry member
    obtain ⟨line, member⟩ := keeps.recorded entry member
    exact late _ member
  refine ⟨sorted_push before keeps.sorted, fun entry member => ?_, fun query => ?_⟩
  · rcases offset_of_mem_push member with old | rfl
    · exact (keeps.recorded entry old).imp fun _ => List.mem_append_left _
    · exact ⟨line, List.mem_append_right _ (List.mem_singleton_self _)⟩
  · rw [found_push before, keeps.found, lastLine_concat]

def ofRecords (records : List (UInt32 × UInt32)) : LineTable :=
  records.foldl (fun table record => table.push record.1 record.2) .empty

theorem keeps_ofRecords {records : List (UInt32 × UInt32)}
    (ordered : records.Pairwise fun earlier later => earlier.1 ≤ later.1) :
    (ofRecords records).Keeps records := by
  induction records using List.reverseRecOn with
  | nil => exact ⟨.nil, by simp [ofRecords, empty], fun _ => rfl⟩
  | append_singleton records record ih =>
    obtain ⟨former, -, late⟩ := List.pairwise_append.1 ordered
    rw [ofRecords, List.foldl_concat]
    exact (ih former).push fun other member => late other member record (List.mem_singleton_self _)

end LineTable

def consecutive (place : Nat) : List UInt32 → List (UInt32 × UInt32)
  | [] => []
  | line :: rest => (UInt32.ofNat place, line) :: consecutive (place + 1) rest

theorem lastLine_cons (start line : UInt32) (rest : List (UInt32 × UInt32)) (offset : Nat) :
    lastLine ((start, line) :: rest) offset =
      (lastLine rest offset).or (if start.toNat ≤ offset then some line else none) := by
  rw [lastLine, List.filter_cons]
  split
  next here =>
    rw [List.getLast?_cons, if_pos (of_decide_eq_true here), lastLine]
    cases (rest.filter fun record => record.1.toNat ≤ offset).getLast? <;> rfl
  next later =>
    rw [if_neg (by simpa using later), Option.or_none, lastLine]

section Consecutive

variable {lines : List UInt32} {place : Nat}

theorem mem_consecutive {record : UInt32 × UInt32} (fits : place + lines.length ≤ UInt32.size)
    (member : record ∈ consecutive place lines) : place ≤ record.1.toNat := by
  induction lines generalizing place with
  | nil => cases member
  | cons line rest ih =>
    rw [List.length_cons] at fits
    rcases List.mem_cons.1 member with rfl | later
    · rw [UInt32.toNat_ofNat_of_lt' (by omega)]
    · exact Nat.le_of_succ_le (ih (by omega) later)

theorem consecutive_ordered (fits : place + lines.length ≤ UInt32.size) :
    (consecutive place lines).Pairwise fun earlier later => earlier.1 ≤ later.1 := by
  induction lines generalizing place with
  | nil => exact .nil
  | cons line rest ih =>
    rw [List.length_cons] at fits
    refine .cons (fun record member => ?_) (ih (by omega))
    rw [UInt32.le_iff_toNat_le, UInt32.toNat_ofNat_of_lt' (by omega)]
    exact Nat.le_of_succ_le (mem_consecutive (by omega) member)

theorem lastLine_consecutive (fits : place + lines.length ≤ UInt32.size) {index : Nat} {line : UInt32}
    (there : lines[index]? = some line) :
    lastLine (consecutive place lines) (place + index) = some line := by
  induction lines generalizing place index with
  | nil => cases there
  | cons first rest ih =>
    rw [List.length_cons] at fits
    rw [consecutive, lastLine_cons]
    cases index with
    | zero =>
      cases there
      have silent : lastLine (consecutive (place + 1) rest) place = none := by
        rw [lastLine, List.filter_eq_nil_iff.2]
        · rfl
        · intro record member
          have later := mem_consecutive (by omega) member
          rw [decide_eq_true_iff]
          omega
      change (lastLine _ place).or (if _ ≤ place then some line else none) = some line
      rw [silent, UInt32.toNat_ofNat_of_lt' (by omega), if_pos (Nat.le_refl _), Option.none_or]
    | succ index =>
      rw [show place + (index + 1) = place + 1 + index by omega, ih (by omega) there, Option.some_or]

end Consecutive

theorem exists_split_of_filterMap {choose : α → Option β} {items : List α} {index : Nat} {chosen : β}
    (there : (items.filterMap choose)[index]? = some chosen) :
    ∃ before item after, items = before ++ item :: after ∧ choose item = some chosen ∧
      index = (before.filterMap choose).length := by
  induction items generalizing index with
  | nil => cases there
  | cons item rest ih =>
    cases taken : choose item with
    | none =>
      rw [List.filterMap_cons_none taken] at there
      obtain ⟨before, other, after, rfl, known, counted⟩ := ih there
      exact ⟨item :: before, other, after, rfl, known, by rw [List.filterMap_cons_none taken, counted]⟩
    | some first =>
      rw [List.filterMap_cons_some taken] at there
      cases index with
      | zero =>
        cases there
        exact ⟨[], item, rest, rfl, taken, rfl⟩
      | succ index =>
        obtain ⟨before, other, after, rfl, known, counted⟩ := ih there
        refine ⟨item :: before, other, after, rfl, known, ?_⟩
        rw [List.filterMap_cons_some taken, List.length_cons, counted]

namespace Assembly

namespace Listing

/-- The line that the instruction at a place is to have in a function that starts at line `opening`:
the number that was set last before it, or else the number of its own line. -/
def Dates (listing : Listing) (opening place : Nat) (number : UInt32) : Prop :=
  ∃ before line after, listing.lines = before ++ line :: after ∧ line.instruction?.isSome ∧
    place = (before.filterMap Line.instruction?).length ∧
    number = (before.filterMap Line.numbering?).getLast?.getD
      (UInt32.ofNat (opening + before.length + 1))

variable {listing : Listing} {line : Line} {opening place : Nat} {number : UInt32}

theorem dates_add : (listing.add line).Dates opening place number →
    listing.Dates opening place number ∨ line.instruction?.isSome ∧
      place = listing.instructions.length ∧
      number = (listing.lines.filterMap Line.numbering?).getLast?.getD
        (UInt32.ofNat (opening + listing.lines.length + 1)) := by
  rintro ⟨before, own, after, split, codes, counted, numbered⟩
  rcases add_lines_eq_iff.1 split with ⟨rest, rfl, lines⟩ | ⟨rfl, rfl, rfl⟩
  · exact .inl ⟨before, own, rest, lines, codes, counted, numbered⟩
  · exact .inr ⟨codes, counted, numbered⟩

theorem exists_dates (opening : Nat) (inside : place < listing.instructions.length) :
    ∃ number, listing.Dates opening place number := by
  obtain ⟨before, line, after, lines, codes, counted⟩ :=
    exists_split_of_filterMap (List.getElem?_eq_getElem inside)
  exact ⟨_, before, line, after, lines, by rw [codes]; rfl, counted, rfl⟩

end Listing

namespace Draft

variable {draft after : Draft} {listing : Listing} {line : Line} {number opening : Nat}

def sourceLines (draft : Draft) : List UInt32 := draft.body.toList.map Statement.sourceLine

theorem encodeFrom_lines {place : Nat} {code codeAfter : Array Word} {lines linesAfter : LineTable}
    {pools grown : Pools} {statements : List Statement}
    (encoded : draft.encodeFrom place code lines pools statements =
      .ok (codeAfter, linesAfter, grown)) :
    linesAfter = (consecutive place (statements.map Statement.sourceLine)).foldl
      (fun table record => table.push record.1 record.2) lines := by
  induction statements generalizing place code lines pools with
  | nil =>
    cases encoded
    rfl
  | cons statement rest ih =>
    unfold encodeFrom at encoded
    split at encoded
    next => cases encoded
    next => exact ih encoded

theorem append_sourceLines {tokens : List Token} (appended : draft.append number tokens = .ok after) :
    after.sourceLine = draft.sourceLine ∧
      after.sourceLines = draft.sourceLines ++ (Line.instructionOf tokens).toList.map fun _ =>
        draft.sourceLine.getD (UInt32.ofNat number) := by
  obtain ⟨-, -, current, -, added, body, written, dated⟩ := append_eq_ok appended
  refine ⟨current, ?_⟩
  rw [sourceLines, body, List.map_append, List.map_const', ← written.length_eq]
  exact congrArg _ (List.map_eq_replicate_iff.2 dated)

/-- What a line of a function does to the lines of instructions. -/
theorem Reads.sourceLines (reads : draft.Reads number line after) :
    after.sourceLine = line.numbering?.or draft.sourceLine ∧
      after.sourceLines = draft.sourceLines ++ line.instruction?.toList.map fun _ =>
        draft.sourceLine.getD (UInt32.ofNat number) := by
  cases reads with
  | blank => exact ⟨rfl, (List.append_nil _).symm⟩
  | directive changed =>
    obtain ⟨-, body, -, current, -⟩ := direct_keeps changed
    refine ⟨current, ?_⟩
    rw [Draft.sourceLines, body]
    exact (List.append_nil _).symm
  | @code first rest _ plain added =>
    unfold addLine at added
    split at added
    next name labelled =>
      obtain ⟨middle, defined, added⟩ := bind_eq_ok.1 added
      obtain ⟨-, rfl⟩ := defineLabel_eq_ok defined
      rw [Line.ofTokens_of_plain plain, labelled]
      have appended := append_sourceLines added
      exact appended
    next unlabelled =>
      rw [Line.ofTokens_of_plain plain, unlabelled]
      exact append_sourceLines added

structure Dated (draft : Draft) (listing : Listing) (opening : Nat) : Prop where
  current : draft.sourceLine = (listing.lines.filterMap Line.numbering?).getLast?
  lines : ∀ place number, listing.Dates opening place number →
    draft.sourceLines[place]? = some number

theorem dated_start (name sourceName : String) (line opening : Nat) :
    (Draft.start name sourceName line).Dated ⟨name, []⟩ opening where
  current := rfl
  lines place number dates := by
    obtain ⟨before, line, after, split, -⟩ := dates
    cases before <;> cases split

theorem Dated.reads (dated : draft.Dated listing opening) (records : draft.Records listing)
    (reads : draft.Reads (opening + listing.lines.length + 1) line after) :
    after.Dated (listing.add line) opening := by
  obtain ⟨current, sourceLines⟩ := reads.sourceLines
  constructor
  · rw [current, dated.current, Listing.add, List.filterMap_append, List.getLast?_append]
    cases numbered : line.numbering? <;> simp [numbered]
  · intro place number dates
    rw [sourceLines]
    rcases Listing.dates_add dates with old | ⟨codes, rfl, rfl⟩
    · have there := dated.lines place number old
      rw [List.getElem?_append_left (List.getElem?_eq_some_iff.1 there).1, there]
    · have length : draft.sourceLines.length = listing.instructions.length := by
        rw [Draft.sourceLines, List.length_map, records.body.length_eq]
      obtain ⟨written, found⟩ := Option.isSome_iff_exists.1 codes
      rw [← length, List.getElem?_append_right (Nat.le_refl _), Nat.sub_self, found, ← dated.current]
      rfl

/-- A finished function has the lines that its text gives it, as long as offsets have 32 bits. -/
theorem Dated.finish {routine : Routine} (dated : draft.Dated listing opening)
    (finished : draft.finish = .ok routine) (fits : routine.code.size ≤ UInt32.size) {place : Nat}
    {number : UInt32} (dates : listing.Dates opening place number) :
    routine.lines.lineFor place = some number := by
  obtain ⟨-, size, -⟩ := finish_encodes finished
  obtain ⟨-, pools, encoded, -⟩ := finish_eq_ok finished
  have lines : routine.lines = .ofRecords (consecutive 0 draft.sourceLines) := encodeFrom_lines encoded
  have fits : 0 + draft.sourceLines.length ≤ UInt32.size := by
    rwa [Nat.zero_add, sourceLines, List.length_map, Array.length_toList, ← size]
  have keeps := LineTable.keeps_ofRecords (consecutive_ordered fits)
  have there := lastLine_consecutive fits (dated.lines place number dates)
  rw [lines, LineTable.lineFor_eq keeps.sorted, keeps.found, ← there, Nat.zero_add]

end Draft

theorem Draft.dated_kept (sourceName : String) :
    State.Kept sourceName fun read draft listing => draft.Records listing ∧
      ∃ before line, read = before ++ line :: listing.lines ∧ line.opens? = some listing.name ∧
        draft.Dated listing (before.length + 1) where
  starts past line name opens :=
    ⟨records_start name sourceName _, past, line, rfl, opens, dated_start name sourceName _ _⟩
  reads := by
    rintro _ line draft after listing ⟨records, before, opening, rfl, opens, dated⟩ reads
    have number : (before ++ opening :: listing.lines).length =
        before.length + 1 + listing.lines.length := by
      rw [List.length_append, List.length_cons]
      omega
    rw [number] at reads
    refine ⟨records.reads reads, before, opening, ?_, opens, dated.reads records reads⟩
    rw [Listing.add, List.append_assoc, List.cons_append]

/-- Whatever is recorded with offsets that do not decrease, a table has growing offsets and finds the
line recorded last at or before an offset. So every instruction of an assembled function is found to
have the number that the text set last before it in the function, or else the number of its own line.
Offsets have 32 bits, and so have lines. -/
theorem lines_follow_text :
    (∀ records : List (UInt32 × UInt32),
      (records.Pairwise fun earlier later => earlier.1 ≤ later.1) →
      (LineTable.ofRecords records).Sorted ∧
        ∀ offset, (LineTable.ofRecords records).lineFor offset = lastLine records offset) ∧
    ∀ sourceName source program, assemble sourceName source = .ok program →
      List.Forall₂
        (fun listing routine => ∃ before line after,
          (Text.lines source).map Line.of = before ++ line :: listing.lines ++ after ∧
          line.opens? = some listing.name ∧ routine.name = listing.name ∧
          (∀ place < routine.code.size, ∃ number, listing.Dates (before.length + 1) place number) ∧
          (routine.code.size ≤ UInt32.size → ∀ place number,
            listing.Dates (before.length + 1) place number →
            routine.lines.lineFor place = some number))
        (Listing.ofSource source) program.routines := by
  constructor
  · intro records ordered
    have keeps := LineTable.keeps_ofRecords ordered
    refine ⟨keeps.sorted, fun offset => ?_⟩
    exact (LineTable.lineFor_eq keeps.sorted offset).trans (keeps.found offset)
  · intro sourceName source program assembled
    refine (assemble_kept (Draft.dated_kept sourceName) assembled).imp ?_
    rintro listing routine ⟨_, draft, ⟨after, whole⟩, held, finished⟩
    obtain ⟨records, before, line, rfl, opens, dated⟩ := held
    have assembles := records.assembles finished
    refine ⟨before, line, after, whole.symm, opens, assembles.name, fun place inside => ?_,
      fun fits place number dates => dated.finish finished fits dates⟩
    exact Listing.exists_dates _ (assembles.size ▸ inside)

def numbered : String :=
  ".func First\n.line 9\nRETI 0!, 7\n.end\n.func Second\nLI d0, 1\n.line 40\nLI d0, 2\n\nRET 0!, d0\n.end\n"

theorem Listing.dates_of_line {listing : Listing} {index : Nat} (opening : Nat)
    (codes : (listing.lines[index]?.bind Line.instruction?).isSome) :
    listing.Dates opening ((listing.lines.take index).filterMap Line.instruction?).length
      (((listing.lines.take index).filterMap Line.numbering?).getLast?.getD
        (UInt32.ofNat (opening + index + 1))) := by
  obtain ⟨written, found⟩ := Option.isSome_iff_exists.1 codes
  obtain ⟨line, there, codes⟩ := Option.bind_eq_some_iff.1 found
  obtain ⟨inside, rfl⟩ := List.getElem?_eq_some_iff.1 there
  refine ⟨listing.lines.take index, listing.lines[index], listing.lines.drop (index + 1), ?_,
    by rw [codes]; rfl, rfl, ?_⟩
  · rw [List.getElem_cons_drop, List.take_append_drop]
  · rw [List.length_take_of_le (Nat.le_of_lt inside)]

/-- The line that the first function sets says nothing about the second. -/
theorem lines_follow_text_numbered :
    (LineTable.ofRecords [(2, 5), (3, 5), (6, 9), (6, 10)]).lineFor 6 = some 10 ∧
    ∃ program second, assemble anonymous numbered = .ok program ∧
      program.routines[1]? = some second ∧ second.lines.lineFor 0 = some 6 ∧
      second.lines.lineFor 2 = some 40 := by
  refine ⟨(lines_follow_text.1 _ (by decide)).2 6, ?_⟩
  have sizes : ((assemble anonymous numbered).toOption.map fun program =>
      program.routines.map fun routine => routine.code.size) = some [1, 3] := by
    decide +kernel
  have evaluated : ∃ listing ∈ (Listing.ofSource numbered)[1]?, listing.name = "Second" ∧
      (listing.lines[0]?.bind Line.instruction?).isSome ∧
      (listing.lines[4]?.bind Line.instruction?).isSome ∧
      ((listing.lines.take 4).filterMap Line.instruction?).length = 2 ∧
      (listing.lines.take 4).filterMap Line.numbering? = [40] := by
    decide +kernel
  have opened : ∀ place < 11,
      (((Text.lines numbered).map Line.of)[place]?.bind Line.opens?) = some "Second" → place = 4 := by
    decide +kernel
  have count : ((Text.lines numbered).map Line.of).length = 11 := by decide +kernel
  obtain ⟨listing, listed, name, first, last, two, set⟩ := evaluated
  cases result : assemble anonymous numbered with
  | error failure =>
    rw [result] at sizes
    cases sizes
  | ok program =>
    obtain ⟨second, found, before, line, after, whole, opens, -, -, finds⟩ :=
      exists_getElem?_of_forall₂ (lines_follow_text.2 _ _ _ result) listed
    rw [result] at sizes
    have size : second.code.size = 3 := by
      have sized := congrArg (fun sizes => sizes[1]?) (Option.some.inj sizes)
      simp only [List.getElem?_map, found] at sized
      exact Option.some.inj sized
    have start : before.length = 4 := by
      have there : ((Text.lines numbered).map Line.of)[before.length]? = some line := by
        rw [whole, List.append_assoc, List.getElem?_append_right (Nat.le_refl _), Nat.sub_self]
        rfl
      exact opened _ (count ▸ (List.getElem?_eq_some_iff.1 there).1)
        (by rw [there, Option.bind_some, opens, name])
    rw [start, size] at finds
    have finds := finds (by decide)
    have after := finds _ _ (Listing.dates_of_line 5 last)
    rw [two, set] at after
    exact ⟨program, second, rfl, found, finds _ _ (Listing.dates_of_line 5 first), after⟩

end Assembly

end GameScript
