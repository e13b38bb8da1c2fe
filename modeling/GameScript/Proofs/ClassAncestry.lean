import Mathlib.Logic.Relation
import GameScript.Proofs.MemoryAccess

/-! Which classes a class inherits from. The search up the parents ends after as many steps as there are
classes. That loses no ancestor, in whatever circles the parents go: only a class that is registered
has a parent, so a way up that meets no class twice is not longer than that. -/

namespace GameScript

namespace Classes

/-- A class inherits from itself, from its parent, and from what its parent inherits from. A parent is
what the class names as such, registered or not. -/
def Inherits (classes : Classes) : ClassId → ClassId → Prop :=
  Relation.ReflTransGen fun id parent => classes.parent? id = some parent

/-- The classes on the way from a class up to `ancestor`, without `ancestor` itself. -/
inductive Climbs (classes : Classes) (ancestor : ClassId) : ClassId → List ClassId → Prop where
  | there : Climbs classes ancestor ancestor []
  | up {id parent path} (above : classes.parent? id = some parent)
      (rest : Climbs classes ancestor parent path) : Climbs classes ancestor id (id :: path)

variable {classes : Classes} {id parent ancestor : ClassId} {path : List ClassId}

theorem inherits_of_ascends {hops : Nat} (found : classes.ascends ancestor hops id = true) :
    classes.Inherits id ancestor := by
  induction hops generalizing id with
  | zero =>
    rw [eq_of_beq found]
    exact .refl
  | succ hops ih =>
    rw [ascends, Bool.or_eq_true] at found
    rcases found with same | above
    · rw [eq_of_beq same]
      exact .refl
    · split at above
      next parent up => exact (ih above).head up
      next => cases above

theorem ascends_mono {fewer more : Nat} (le : fewer ≤ more)
    (found : classes.ascends ancestor fewer id = true) : classes.ascends ancestor more id = true := by
  induction more generalizing fewer id with
  | zero => rwa [Nat.le_zero.1 le] at found
  | succ more ih =>
    rw [ascends, Bool.or_eq_true]
    cases fewer with
    | zero => exact .inl found
    | succ fewer =>
      rw [ascends, Bool.or_eq_true] at found
      refine found.imp_right fun above => ?_
      split at above
      next parent up => exact ih (Nat.le_of_succ_le_succ le) above
      next => cases above

namespace Climbs

theorem ascends (climbs : classes.Climbs ancestor id path) :
    classes.ascends ancestor path.length id = true := by
  induction climbs with
  | there => exact beq_self_eq_true ancestor
  | up above rest ih =>
    rw [List.length_cons, Classes.ascends, above, Bool.or_eq_true]
    exact .inr ih

theorem registered (climbs : classes.Climbs ancestor id path) (member : parent ∈ path) :
    parent.index.toNat < classes.size := by
  induction climbs with
  | there => cases member
  | up above rest ih =>
    cases member with
    | head =>
      obtain ⟨info, found, -⟩ := Option.bind_eq_some_iff.1 above
      exact (Array.getElem?_eq_some_iff.1 found).1
    | tail _ later => exact ih later

/-- The way up from a class that is passed is the rest of the way. -/
theorem rest (climbs : classes.Climbs ancestor id path) (member : parent ∈ path) :
    ∃ shorter, classes.Climbs ancestor parent shorter ∧ shorter <:+ path := by
  induction climbs with
  | there => cases member
  | @up id above path up climbs ih =>
    cases member with
    | head => exact ⟨_, .up up climbs, List.suffix_refl _⟩
    | tail _ later =>
      obtain ⟨shorter, climbs, suffix⟩ := ih later
      exact ⟨shorter, climbs, suffix.trans (List.suffix_cons id path)⟩

theorem length_le (climbs : classes.Climbs ancestor id path) (simple : path.Nodup) :
    path.length ≤ classes.size := by
  have distinct : (path.map fun id => id.index.toNat).Nodup := by
    refine List.pairwise_map.2 (simple.imp fun {first second} apart same => apart ?_)
    cases first
    cases second
    simp_all [UInt32.toNat_inj]
  have bounded : (path.map fun id => id.index.toNat) ⊆ List.range classes.size := by
    intro index member
    obtain ⟨id, passed, rfl⟩ := List.mem_map.1 member
    exact List.mem_range.2 (climbs.registered passed)
  simpa using distinct.length_le_of_subset bounded

end Climbs

/-- A class that is passed again cuts the way short, so there is one without a repetition. -/
theorem Inherits.climbs (inherits : classes.Inherits id ancestor) :
    ∃ path, classes.Climbs ancestor id path ∧ path.Nodup := by
  induction inherits using Relation.ReflTransGen.head_induction_on with
  | refl => exact ⟨[], .there, List.nodup_nil⟩
  | @head id parent up _ ih =>
    obtain ⟨path, climbs, simple⟩ := ih
    by_cases again : id ∈ path
    · obtain ⟨shorter, climbs, suffix⟩ := climbs.rest again
      exact ⟨shorter, climbs, suffix.sublist.nodup simple⟩
    · exact ⟨id :: path, .up up climbs, List.nodup_cons.2 ⟨again, simple⟩⟩

theorem descends_iff : classes.descends id ancestor = true ↔ classes.Inherits id ancestor := by
  refine ⟨inherits_of_ascends, fun inherits => ?_⟩
  obtain ⟨path, climbs, simple⟩ := inherits.climbs
  exact ascends_mono (climbs.length_le simple) climbs.ascends

end Classes

namespace Action

variable {state : Local} {w : Word} {source : Source} {target : ClassId}

theorem compute_castObject {ref : ObjectRef} {object : Object} (epsilon : Double) (mnemonic : String)
    (wanted : state.frame.operand source .pointer w.c.toNat = .ok (.class_ target))
    (held : state.frame.registers.register .pointer w.b.toNat = .ok (.object ref))
    (live : state.world.heap.object ref = .ok object) :
    compute epsilon mnemonic w (.castObject source) state =
      setRegister .pointer w.a.toNat
        (if state.world.heap.classes.descends object.ofClass target then .object ref else .null)
        state := by
  simp only [compute, castObject, bind_apply, fetch_apply, wanted, register_apply, held, ofExcept_ok,
    classOf, pure_apply, heap_apply, Heap.isKindOf, live]

theorem compute_castClass {id : ClassId} (epsilon : Double) (mnemonic : String)
    (wanted : state.frame.operand source .pointer w.c.toNat = .ok (.class_ target))
    (held : state.frame.registers.register .pointer w.b.toNat = .ok (.class_ id)) :
    compute epsilon mnemonic w (.castClass source) state =
      setRegister .pointer w.a.toNat
        (if state.world.heap.classes.descends id target then .class_ id else .null) state := by
  simp only [compute, castClass, bind_apply, fetch_apply, wanted, register_apply, held, ofExcept_ok,
    classOf, pure_apply, heap_apply]

/-- Whatever the parents are, the search finds exactly what a class inherits from, and a cast keeps
exactly what is of the wanted class. -/
theorem casts_follow_parents (classes : Classes) :
    (∀ id ancestor, classes.descends id ancestor = true ↔ classes.Inherits id ancestor) ∧
    (∀ id, classes.descends id id = true) ∧
    (∀ id middle ancestor, classes.descends id middle = true →
      classes.descends middle ancestor = true → classes.descends id ancestor = true) ∧
    ∀ (epsilon : Double) (mnemonic : String) (w : Word) (source : Source) (state : Local)
      (target : ClassId), state.world.heap.classes = classes →
      state.frame.operand source .pointer w.c.toNat = .ok (.class_ target) →
      (∀ ref object, state.frame.registers.register .pointer w.b.toNat = .ok (.object ref) →
        state.world.heap.object ref = .ok object →
        ∃ kept, compute epsilon mnemonic w (.castObject source) state =
            setRegister .pointer w.a.toNat kept state ∧
          (kept = .object ref ↔ classes.Inherits object.ofClass target) ∧
          (kept = .null ↔ ¬classes.Inherits object.ofClass target)) ∧
      ∀ id, state.frame.registers.register .pointer w.b.toNat = .ok (.class_ id) →
        ∃ kept, compute epsilon mnemonic w (.castClass source) state =
            setRegister .pointer w.a.toNat kept state ∧
          (kept = .class_ id ↔ classes.Inherits id target) ∧
          (kept = .null ↔ ¬classes.Inherits id target) := by
  refine ⟨fun id ancestor => Classes.descends_iff, fun id => Classes.descends_iff.2 .refl, ?_, ?_⟩
  · intro id middle ancestor first second
    exact Classes.descends_iff.2 ((Classes.descends_iff.1 first).trans (Classes.descends_iff.1 second))
  · rintro epsilon mnemonic w source state target rfl wanted
    refine ⟨fun ref object held live => ?_, fun id held => ?_⟩
    · refine ⟨_, compute_castObject epsilon mnemonic wanted held live, ?_⟩
      rw [← Classes.descends_iff]
      split <;> simp [*]
    · refine ⟨_, compute_castClass epsilon mnemonic wanted held, ?_⟩
      rw [← Classes.descends_iff]
      split <;> simp [*]

/-- Two classes, one above the other, with a parent above both that is not registered; the way from the
lower one passes every class. The number of that parent is one of no class. -/
def dangling : Classes :=
  let (base, classes) := Classes.empty.define ⟨"Base", some ⟨7⟩, 4, #[]⟩
  (classes.define ⟨"Derived", some base, 4, #[]⟩).2

def casting : Local where
  frame := {
    routine := ⟨"Main", "", #[], .blank fun _ => 0, ⟨0, 0, 0, 3, 0, 0⟩, .empty⟩
    registers := ⟨#[], #[], #[], #[.object ⟨⟨0, 0⟩⟩, .class_ ⟨7⟩, .class_ ⟨1⟩]⟩
    pc := 0
    current := 0
    staged := []
    extra := none
    pending := none
    results := []
    returned := 0
    host := some [] }
  world := { World.empty with
    heap := { Heap.empty with
      classes := dangling
      objects := (Heap.empty.objects.insert ⟨⟨1⟩, ⟨⟨0, 0⟩⟩⟩).2 } }

/-- The object is of the unregistered class. That class is not of the lower one. -/
theorem casts_follow_parents_dangling :
    compute ⟨0⟩ "DYNCAST_R" ⟨0x01000052⟩ (.castObject .register) casting =
      setRegister .pointer 0 (.object ⟨⟨0, 0⟩⟩) casting ∧
    compute ⟨0⟩ "DYNCASTC_R" ⟨0x02010054⟩ (.castClass .register) casting =
      setRegister .pointer 0 .null casting := by
  obtain ⟨found, reflexive, transitive, casts⟩ := casts_follow_parents dangling
  have lower : dangling.parent? ⟨1⟩ = some ⟨0⟩ := by decide +kernel
  have upper : dangling.parent? ⟨0⟩ = some ⟨7⟩ := by decide +kernel
  have up : dangling.descends ⟨1⟩ ⟨7⟩ = true :=
    transitive ⟨1⟩ ⟨0⟩ ⟨7⟩ ((found _ _).2 (.single lower)) ((found _ _).2 (.single upper))
  constructor
  · obtain ⟨kept, casts, same, -⟩ := (casts ⟨0⟩ "DYNCAST_R" ⟨0x01000052⟩ .register casting ⟨7⟩ rfl
      rfl).1 ⟨⟨0, 0⟩⟩ ⟨⟨1⟩, ⟨⟨0, 0⟩⟩⟩ rfl rfl
    rw [casts, same.2 ((found _ _).1 up)]
    rfl
  · obtain ⟨kept, casts, -, none⟩ := (casts ⟨0⟩ "DYNCASTC_R" ⟨0x02010054⟩ .register casting ⟨1⟩ rfl
      rfl).2 ⟨7⟩ rfl
    rw [casts, none.2 fun inherits => absurd ((found _ _).2 inherits) (by decide +kernel)]
    rfl

end Action
end GameScript
