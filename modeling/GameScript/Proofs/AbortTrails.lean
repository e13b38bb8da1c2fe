import GameScript.Proofs.AssembledCode
import GameScript.Proofs.CallBalance
import GameScript.Proofs.FetchedInstructions

/-! The trail of an abort. If native functions hand on the aborts of the calls they make as they are,
an abort that ends a call has noted exactly the functions that were running when it was raised. Only
the end of an outermost call is reported. -/

namespace GameScript

namespace Behaviour

/-- A native function ends with an abort of its own, which has left no function yet, or with one that
it has received from a call, as it was. -/
def Relays : (Abort → Prop) → Behaviour ν → Prop
  | received, .finish outcome => ∀ abort, outcome.result = .error abort →
    abort.trail = [] ∨ received abort
  | received, .look next => ∀ view, (next view).Relays received
  | received, .change _ _ next => next.Relays received
  | received, .call _ _ _ resume => ∀ outcome,
    (resume outcome).Relays fun abort => received abort ∨ outcome.result = .error abort

def Quiet (reports : Array String) : Behaviour ν → Prop
  | .finish _ => True
  | .look next => ∀ view, view.world.reports = reports → (next view).Quiet reports
  | .change _ world next => world.reports = reports ∧ next.Quiet reports
  | .call _ _ _ resume => ∀ outcome, (resume outcome).Quiet reports

theorem Relays.mono {received more : Abort → Prop} {behaviour : Behaviour ν}
    (relays : behaviour.Relays received) (weaker : ∀ abort, received abort → more abort) :
    behaviour.Relays more := by
  induction behaviour generalizing received more with
  | finish outcome => exact fun abort failed => (relays abort failed).imp_right (weaker abort)
  | look next ih => exact fun view => ih view (relays view) weaker
  | change library world next ih => exact ih relays weaker
  | call id arguments slots resume ih =>
    exact fun outcome => ih outcome (relays outcome) fun abort => Or.imp_left (weaker abort)

end Behaviour

namespace Machine

variable {natives : Natives ν} {start machine next : Machine ν} {now : Nat} {abort : Abort}
  {sites : List Site}

/-- An abort that has left some functions, and is to leave those at the given sites, was raised when
all of them were running. -/
def Explained (natives : Natives ν) (start : Machine ν) (now : Nat) (abort : Abort)
    (sites : List Site) : Prop :=
  ∃ raised < now, ∃ live, Raises natives (run natives raised start) abort.bare live ∧
    abort.trail ++ sites = live.map Activation.site

theorem Explained.succ (explained : Explained natives start now abort sites) :
    Explained natives start (now + 1) abort sites := by
  obtain ⟨raised, early, found⟩ := explained
  exact ⟨raised, Nat.lt_succ_of_lt early, found⟩

theorem explained_of_raises {live : List (Activation ν)} {gone : List Site}
    (raises : Raises natives (run natives now start) abort live)
    (split : live.map Activation.site = gone ++ sites) :
    Explained natives start (now + 1) (abort.passing gone) sites := by
  refine ⟨now, Nat.lt_succ_self now, live, ?_, ?_⟩
  · rwa [Abort.bare_passing, Abort.bare_of_trail raises.trail]
  · rw [Abort.trail_passing, raises.trail, List.nil_append, split]

def Relaying (natives : Natives ν) (start : Machine ν) (now : Nat) :
    Activation ν → List (Activation ν) → Prop
  | .script _, _ => True
  | .native call, below => call.behaviour.Relays fun abort =>
    Explained natives start now abort (.native call.name :: below.map Activation.site)

/-- The abort of the call that has just ended is explained, and so is what native functions have
received. -/
structure Accounted (natives : Natives ν) (start : Machine ν) (now : Nat) : Prop where
  relaying : Throughout (Relaying natives start now) (run natives now start).stack
  ended : ∀ outcome abort, (run natives now start).completed = some outcome →
    outcome.result = .error abort →
    Explained natives start now abort ((run natives now start).stack.map Activation.site)

theorem Relaying.succ {activation : Activation ν} {below : List (Activation ν)}
    (relaying : Relaying natives start now activation below) :
    Relaying natives start (now + 1) activation below := by
  cases activation with
  | script frame => trivial
  | native call => exact Behaviour.Relays.mono relaying fun _ => Explained.succ

namespace Accounted

variable (relays : ∀ function arguments slots,
    (natives function arguments slots).Relays fun _ => False)

include relays in
theorem relaying_begins {activation : Activation ν} (begins : Begins natives activation)
    (below : List (Activation ν)) : Relaying natives start now activation below := by
  cases begins with
  | script => trivial
  | native => exact (relays _ _ _).mono fun _ never => never.elim

include relays in
theorem restacked {after : List (Activation ν)} (accounted : Accounted natives start now)
    (restacks : Restacks natives (run natives now start) after) :
    Throughout (Relaying natives start (now + 1)) after := by
  have later {stack : List (Activation ν)} (all : Throughout (Relaying natives start now) stack) :
      Throughout (Relaying natives start (now + 1)) stack := all.imp fun _ _ _ => Relaying.succ
  have split {top : Activation ν} {below : List (Activation ν)}
      (stack : (run natives now start).stack = top :: below) :
      Relaying natives start now top below ∧
        Throughout (Relaying natives start (now + 1)) below := by
    have all := accounted.relaying
    rw [stack] at all
    exact ⟨all.1, later all.2⟩
  cases restacks with
  | ended stack left => exact (split stack).2.suffix left
  | resumed stack same => exact ⟨trivial, (split stack).2.2⟩
  | advanced idle stack done => exact ⟨trivial, (split stack).2⟩
  | called idle stack done same begins =>
    exact ⟨relaying_begins relays begins _, trivial, (split stack).2⟩
  | dealt stack deals =>
    obtain ⟨here, waiting⟩ := split stack
    refine ⟨Relaying.succ ?_, waiting⟩
    cases deals with
    | look => exact here _
    | change => exact here
    | take ended =>
      refine Behaviour.Relays.mono (here _) fun abort received => ?_
      obtain known | failed := received
      · exact known
      · have explained := accounted.ended _ abort ended failed
        rw [stack] at explained
        exact explained
  | entered stack begins =>
    obtain ⟨here, waiting⟩ := split stack
    exact ⟨relaying_begins relays begins _, here.succ, waiting⟩
  | refused stack => exact later accounted.relaying

/-- The abort that ends a call in a step is raised there, or a native function has received it. -/
theorem explained {outcome : Outcome} (accounted : Accounted natives start now)
    (disciplined : Disciplined [] (run natives now start))
    (stepped : (run natives now start).step natives = some next)
    (ended : next.completed = some outcome) (failed : outcome.result = .error abort) :
    Explained natives start (now + 1) abort (next.stack.map Activation.site) := by
  obtain ⟨origin, live, gone, sends, split, rfl⟩ := step_sends disciplined stepped ended failed
  cases sends with
  | raised raises => exact explained_of_raises raises split
  | relayed idle top given =>
    have here := accounted.relaying
    rw [top] at here
    obtain fresh | received := here.1 origin given
    · exact explained_of_raises (.native idle top given fresh) split
    · -- It was raised earlier, when the functions still to be left were already on the stack.
      obtain ⟨raised, early, live, raises, whole⟩ := received
      refine ⟨raised, Nat.lt_succ_of_lt early, live, raises, ?_⟩
      rw [Abort.trail_passing, List.append_assoc, ← split, top]
      exact whole

include relays in
theorem run (disciplined : Disciplined [] start) (accounted : Accounted natives start 0) (now : Nat) :
    Accounted natives start now := by
  induction now with
  | zero => exact accounted
  | succ now ih =>
    rcases run_succ_cases now start with stepped | ⟨-, same⟩
    · refine ⟨ih.restacked relays (step_restacks stepped), fun outcome abort ended failed => ?_⟩
      exact ih.explained (disciplined_run_nil disciplined now) stepped ended failed
    · constructor
      · rw [same]
        exact ih.relaying.imp fun _ _ _ => Relaying.succ
      · intro outcome abort ended failed
        rw [same] at ended ⊢
        exact (ih.ended outcome abort ended failed).succ

include relays in
theorem begin {activation : Activation ν} (begins : Begins natives activation)
    (stack : start.stack = [activation]) (idle : start.completed = none) :
    Accounted natives start 0 := by
  constructor
  · rw [run_zero, stack]
    exact ⟨relaying_begins relays begins [], trivial⟩
  · intro outcome abort ended
    cases idle.symm.trans ended

end Accounted

/-! ### Reports -/

structure SameHost (before after : Machine ν) : Prop where
  config : after.config = before.config
  reports : after.world.reports = before.world.reports

theorem SameHost.trans {first second third : Machine ν} (before : SameHost first second)
    (after : SameHost second third) : SameHost first third :=
  ⟨after.config.trans before.config, after.reports.trans before.reports⟩

theorem sameReports_effects :
    Action.FrameEffects fun before after => after.world.reports = before.world.reports where
  refl _ := rfl
  trans first second := second.trans first
  registers _ _ _ := rfl
  pc _ _ _ := rfl
  names _ _ := rfl
  barrier _ _ := rfl
  heap _ _ _ _ _ := rfl
  staged _ _ _ := rfl
  boxed _ _ _ _ _ _ _ := rfl
  stored _ _ _ := rfl
  fetched _ _ := rfl

theorem reports_of_advance_ok {setting : Setting ν} {following : Next ν} {state after : Local}
    (done : Action.advance setting state = .ok following after) :
    after.world.reports = state.world.reports := by
  cases following with
  | call request =>
    obtain ⟨_, _, _, -, -, -, called⟩ := Action.advance_call done
    rw [called.left]
    rfl
  | proceed => exact Action.keeps_advance_ok sameReports_effects (by simp) done
  | finish => exact Action.keeps_advance_ok sameReports_effects (by simp) done

theorem sameHost_resumeFrame {frame : Frame} {below : List (Activation ν)} {pending : PendingCall}
    {result : Except Abort (List ResultSlot)} :
    SameHost machine (machine.resumeFrame frame below pending result) := by
  obtain ⟨_, _, -, -, -, same⟩ | ⟨_, _, -, same⟩ :=
    resumeFrame_cases machine frame below pending result
  · rw [same]
    exact ⟨rfl, rfl⟩
  · rw [same]
    exact ⟨rfl, rfl⟩

theorem sameHost_enter (machine : Machine ν) (natives : Natives ν) (id : FunctionId)
    (arguments : List Value) (slots : List ResultSlot) :
    SameHost machine (machine.enter natives id arguments slots) := by
  obtain ⟨_, same⟩ | ⟨_, _, same⟩ | ⟨_, _, _, -, same⟩ :=
    enter_cases machine natives id arguments slots
  all_goals
    rw [same]
    exact ⟨rfl, rfl⟩

/-- Only a native function changes the reports. -/
theorem step_sameHost (stepped : machine.step natives = some next) :
    SameHost machine next ∨ ∃ name library world following caller below,
      machine.stack = .native ⟨name, .change library world following, caller⟩ :: below ∧
        next.config = machine.config ∧ next.world = world := by
  have kept {frame : Frame} {following : Next ν} {state : Local}
      (advanced : Action.advance machine.setting ⟨frame, machine.world⟩ = .ok following state) :
      state.world.reports = machine.world.reports := reports_of_advance_ok advanced
  cases step_transition stepped with
  | proceeded idle top advanced => exact .inl ⟨rfl, kept advanced⟩
  | aborted idle top advanced =>
    exact .inl ⟨rfl, Action.keeps_advance_error sameReports_effects advanced⟩
  | returnedToHost idle top advanced host => exact .inl ⟨rfl, kept advanced⟩
  | returnedToFrame idle top advanced host waiting =>
    refine .inl (SameHost.trans ?_ sameHost_resumeFrame)
    exact ⟨rfl, kept advanced⟩
  | calledNative idle top advanced callee => exact .inl ⟨rfl, kept advanced⟩
  | calledScript idle top advanced script entered =>
    exact .inl ⟨rfl, kept advanced⟩
  | refusedScript idle top advanced script refused =>
    exact .inl ⟨rfl, kept advanced⟩
  | finishedToHost idle top => exact .inl ⟨rfl, rfl⟩
  | finishedToFrame idle top =>
    refine .inl (SameHost.trans ?_ sameHost_resumeFrame)
    exact ⟨rfl, rfl⟩
  | looked idle top => exact .inl ⟨rfl, rfl⟩
  | changed idle top => exact .inr ⟨_, _, _, _, _, _, top, rfl, rfl⟩
  | entered idle top => exact .inl (sameHost_enter _ _ _ _ _)
  | took ended top => exact .inl ⟨rfl, rfl⟩
  | orphanedFrame idle top advanced host alone => exact .inl ⟨rfl, kept advanced⟩
  | orphanedNative idle top alone => exact .inl ⟨rfl, rfl⟩

def AllQuiet (reports : Array String) (stack : List (Activation ν)) : Prop :=
  ∀ call, .native call ∈ stack → call.behaviour.Quiet reports

section Reports

variable (quiet : ∀ function arguments slots reports, (natives function arguments slots).Quiet reports)
include quiet

theorem allQuiet_cons {activation : Activation ν} {stack : List (Activation ν)}
    {reports : Array String} (begins : Begins natives activation) (rest : AllQuiet reports stack) :
    AllQuiet reports (activation :: stack) := by
  intro call member
  obtain rfl | below := List.mem_cons.1 member
  · cases begins
    exact quiet _ _ _ _
  · exact rest call below

theorem AllQuiet.restacked {after : List (Activation ν)}
    (all : AllQuiet machine.world.reports machine.stack) (restacks : Restacks natives machine after) :
    AllQuiet machine.world.reports after := by
  have below {top : Activation ν} {below : List (Activation ν)}
      (stack : machine.stack = top :: below) : AllQuiet machine.world.reports below := by
    intro call member
    exact all call (by rw [stack]; exact List.mem_cons_of_mem _ member)
  have script {frame : Frame} {stack : List (Activation ν)}
      (rest : AllQuiet machine.world.reports stack) :
      AllQuiet machine.world.reports (.script frame :: stack) := by
    intro call member
    obtain ⟨⟨⟩⟩ | later := List.mem_cons.1 member
    exact rest call later
  cases restacks with
  | ended stack left => exact fun call member => below stack call (left.mem member)
  | resumed stack same =>
    exact script fun call member => below stack call (List.mem_cons_of_mem _ member)
  | advanced idle stack done => exact script (below stack)
  | called idle stack done same begins => exact allQuiet_cons quiet begins (script (below stack))
  | dealt stack deals =>
    have here := all _ (by rw [stack]; exact List.mem_cons_self)
    intro call member
    obtain ⟨⟨⟩⟩ | later := List.mem_cons.1 member
    · cases deals with
      | look => exact here _ rfl
      | change => exact here.2
      | take ended => exact here _
    · exact below stack call later
  | entered stack begins =>
    exact allQuiet_cons quiet begins (stack ▸ all)
  | refused stack => exact all

/-- While a call runs, nothing is reported. -/
theorem run_sameHost (all : AllQuiet start.world.reports start.stack) (now : Nat) :
    SameHost start (run natives now start) ∧
      AllQuiet start.world.reports (run natives now start).stack := by
  induction now with
  | zero => exact ⟨⟨rfl, rfl⟩, all⟩
  | succ now ih =>
    obtain ⟨same, all⟩ := ih
    rcases run_succ_cases now start with stepped | ⟨-, stuck⟩
    · rw [← same.reports] at all ⊢
      refine ⟨?_, all.restacked quiet (step_restacks stepped)⟩
      obtain kept | ⟨_, _, world, _, _, _, stack, config, changed⟩ := step_sameHost stepped
      · exact same.trans kept
      · have here := all _ (by rw [stack]; exact List.mem_cons_self)
        refine same.trans ⟨config, ?_⟩
        rw [changed]
        exact here.1
    · rw [stuck]
      exact ⟨same, all⟩

end Reports

theorem Placed.noted {stack above below : List (Activation ν)} {frame : Frame}
    (placed : Placed natives start now stack) (split : stack = above ++ .script frame :: below) :
    frame.site = .script frame.routine.name frame.routine.sourceFile
        (frame.routine.lines.lineFor (lastFetched natives start below.length now)) ∧
      (above ≠ [] → ∃ target,
        frame.operationAt? (lastFetched natives start below.length now) = some (.call target)) := by
  have here : frame.current = lastFetched natives start below.length now :=
    (placed.tracks.suffix ⟨above, split.symm⟩).1
  rw [← here]
  refine ⟨rfl, fun callee => placed.calling frame ?_⟩
  obtain ⟨innermost, others, rfl⟩ := List.exists_cons_of_ne_nil callee
  rw [split]
  exact List.mem_append_right _ List.mem_cons_self

theorem enter_outermost (natives : Natives ν) (bottom : machine.stack = [])
    (idle : machine.completed = none) (id : FunctionId) (arguments : List Value)
    (slots : List ResultSlot) :
    let start := machine.enter natives id arguments slots
    (start.stack = [] ∧ ∃ abort, abort.trail = [] ∧ start.completed = some ⟨.error abort, slots⟩) ∨
      ∃ activation, Begins natives activation ∧ start.stack = [activation] ∧
        start.completed = none := by
  intro start
  obtain ⟨abort, refused⟩ | ⟨activation, begins, stack, fresh⟩ :=
    enter_begins machine natives id arguments slots
  · refine .inl ?_
    rw [show start = _ from refused]
    exact ⟨bottom, abort, trail_of_enter refused, rfl⟩
  · exact .inr ⟨activation, begins, stack.trans (congrArg _ bottom), fresh.trans idle⟩

/-- An abort that ends a call which has begun was raised when the functions that it notes were
running. -/
theorem raised_of_ended
    (relays : ∀ function arguments slots, (natives function arguments slots).Relays fun _ => False)
    {activation : Activation ν} (begins : Begins natives activation)
    (stack : start.stack = [activation]) (fresh : start.completed = none)
    (disciplined : Disciplined [] start) (gone : (run natives now start).stack = [])
    {outcome : Outcome} (ended : (run natives now start).completed = some outcome)
    (failed : outcome.result = .error abort) :
    ∃ raised live, Raises natives (run natives raised start) abort.bare live ∧
      abort.trail = live.map Activation.site ∧ Placed natives start (raised + 1) live := by
  have accounted := (Accounted.begin relays begins stack fresh).run relays disciplined now
  obtain ⟨raised, -, live, raises, noted⟩ := accounted.ended outcome abort ended failed
  refine ⟨raised, live, raises, ?_, raises.placed ((Placed.begin begins stack).run raised)⟩
  rw [← noted, gone, List.map_nil, List.append_nil]

theorem reports_endCall (machine : Machine ν) (outcome : Outcome) :
    (machine.endCall 0 outcome).world.reports = match outcome.result with
      | .error abort =>
        if machine.config.reportAborts then machine.world.reports.push abort.text
        else machine.world.reports
      | .ok _ => machine.world.reports := by
  unfold endCall
  cases outcome.result with
  | ok count => rfl
  | error abort =>
    simp only [true_and]
    split <;> rfl

/-- An abort that ends an outermost call has noted the functions that were running when it was raised,
each once and the innermost first, or none if the function was not even entered. A frame is noted at
the instruction it has fetched last, which is a call if the frame has a callee. The end of the call is
reported once, if aborts are reported at all and it is one; nothing is reported before. -/
theorem aborts_note_live_functions (natives : Natives ν)
    (relays : ∀ function arguments slots, (natives function arguments slots).Relays fun _ => False)
    (quiet : ∀ function arguments slots reports,
      (natives function arguments slots).Quiet reports)
    (machine : Machine ν) (idle : machine.completed = none) (bottom : machine.stack = [])
    (id : FunctionId) (arguments : List Value) (slots : List ResultSlot) (fuel : Nat)
    (outcome : Outcome) (after : Machine ν)
    (called : machine.call natives fuel id arguments slots = some (outcome, after)) :
    let start := machine.enter natives id arguments slots
    (∀ abort, outcome.result = .error abort →
      start.stack = [] ∧ abort.trail = [] ∨
      ∃ raised live, Raises natives (run natives raised start) abort.bare live ∧
        abort.origin.toList ++ abort.callers = live.map Activation.site ∧
        ∀ above frame below, live = above ++ .script frame :: below →
          let offset := lastFetched natives start below.length (raised + 1)
          frame.site = .script frame.routine.name frame.routine.sourceFile
            (frame.routine.lines.lineFor offset) ∧
          (above ≠ [] → ∃ target, frame.operationAt? offset = some (.call target))) ∧
    (∀ now, (run natives now start).world.reports = machine.world.reports) ∧
    after.world.reports = match outcome.result with
      | .error abort =>
        if machine.config.reportAborts then machine.world.reports.push abort.text
        else machine.world.reports
      | .ok _ => machine.world.reports := by
  intro start
  obtain ⟨count, -, ends, ended, rfl⟩ := call_eq_some bottom called
  have gone : (run natives count start).stack = [] := by
    have below := ends.ended
    rw [depth, depth, bottom] at below
    exact List.eq_nil_of_length_eq_zero (Nat.le_zero.1 below)
  have disciplined : Disciplined [] start := disciplined_enter idle (.inl bottom) id arguments slots
  have first := enter_outermost natives bottom idle id arguments slots
  have running (now : Nat) : SameHost machine (run natives now start) := by
    refine (sameHost_enter machine natives id arguments slots).trans (run_sameHost quiet ?_ now).1
    obtain ⟨empty, -⟩ | ⟨activation, begins, stack, -⟩ := first
    · rw [empty]
      exact fun call member => by cases member
    · rw [stack]
      exact allQuiet_cons quiet begins fun call member => by cases member
  refine ⟨fun abort failed => ?_, fun now => (running now).reports, ?_⟩
  · obtain ⟨empty, other, untouched, refused⟩ | ⟨activation, begins, stack, fresh⟩ := first
    · have same : run natives count start = start :=
        run_stuck (step_eq_none_of_stack_nil empty) count
      rw [same, refused] at ended
      cases ended
      cases failed
      exact .inl ⟨empty, untouched⟩
    · obtain ⟨raised, live, raises, noted, placed⟩ :=
        raised_of_ended relays begins stack fresh disciplined gone ended failed
      refine .inr ⟨raised, live, raises, ?_, fun above frame below split => placed.noted split⟩
      rw [← noted, Abort.origin, Abort.callers]
      cases abort.trail <;> rfl
  · rw [depth, bottom, List.length_nil, reports_endCall]
    rw [← (running count).reports, ← (running count).config]

def reentering : Natives Unit := fun _ _ slots =>
  .call ⟨2⟩ [] [] fun outcome => .finish ⟨outcome.result, slots⟩

def reentered (main fail : LinkedRoutine) : Machine Unit :=
  ⟨.standard, ⟨#[.native "Reenter" (), .script main, .script fail]⟩, .empty, [], none⟩

theorem aborts_note_live_functions_reentering : ∃ main fail outcome after abort,
    LinkedRoutine.ofSource? ".func Main\n.line 9\nCALL_K @Reenter, 0, 0\nRETI 0!, 0\n.end\n" =
      some main ∧
    LinkedRoutine.ofSource? ".func Fail\n.line 5\nTHROW other, \"gave up\"\n.end\n" = some fail ∧
    (reentered main fail).call reentering 9 ⟨1⟩ [] [] = some (outcome, after) ∧
    outcome.result = .error abort ∧
    abort.trail = [.script "Fail" "" (some 5), .native "Reenter", .script "Main" "" (some 9)] ∧
    after.world.reports = #[abort.text] ∧
    ∃ raised live,
      Raises reentering (run reentering raised
        ((reentered main fail).enter reentering ⟨1⟩ [] [])) abort.bare live ∧
      abort.origin.toList ++ abort.callers = live.map Activation.site := by
  have evaluated :
      ∃ main ∈ LinkedRoutine.ofSource? ".func Main\n.line 9\nCALL_K @Reenter, 0, 0\nRETI 0!, 0\n.end\n",
      ∃ fail ∈ LinkedRoutine.ofSource? ".func Fail\n.line 5\nTHROW other, \"gave up\"\n.end\n",
        ((reentered main fail).call reentering 9 ⟨1⟩ [] []).map (fun ended => ended.1.result) =
          some (.error ⟨.other, some "gave up",
            [.script "Fail" "" (some 5), .native "Reenter", .script "Main" "" (some 9)]⟩) := by
    decide +kernel
  obtain ⟨main, foundMain, fail, foundFail, ended⟩ := evaluated
  obtain ⟨⟨outcome, after⟩, called, failed⟩ := Option.map_eq_some_iff.1 ended
  refine ⟨main, fail, outcome, after, _, foundMain, foundFail, called, failed, rfl, ?_⟩
  obtain ⟨noted, -, reported⟩ := aborts_note_live_functions reentering
    (fun _ _ _ outcome abort failed => .inr (.inr failed)) (fun _ _ _ _ _ => trivial)
    (reentered main fail) rfl rfl ⟨1⟩ [] [] 9 outcome after called
  rw [show outcome.result = _ from failed] at reported
  refine ⟨reported, ?_⟩
  obtain ⟨-, ⟨⟩⟩ | ⟨raised, live, raises, same, -⟩ := noted _ failed
  exact ⟨raised, live, raises, same⟩

end Machine
end GameScript
