import Pager.Definition.Defect
import Pager.Proofs.Fields

namespace Pager

namespace Reading

variable {α β : Type} {P : α → Prop} {Q : β → Prop}

/-- What holds of whatever is read. -/
def Gives (m : Reading α) (P : α → Prop) : Prop :=
  ∀ jumps a left, m jumps = .ok (a, left) → P a

namespace Gives

theorem pure {a : α} (holds : P a) : Gives (Pure.pure a) P := by
  rintro jumps _ _ ⟨⟩
  exact holds

theorem fail (misfit : Misfit) : Gives (Reading.fail misfit) P := nofun

theorem trivial (m : Reading α) : Gives m fun _ => True :=
  fun _ _ _ _ => True.intro

theorem bind {m : Reading α} {f : α → Reading β} (first : Gives m P)
    (holds : ∀ a, P a → Gives (f a) Q) : Gives (m >>= f) Q := by
  intro jumps b left read
  change (m jumps >>= fun (a, middle) => f a middle) = .ok (b, left) at read
  cases m' : m jumps with
  | error misfit =>
    rw [m'] at read
    cases read
  | ok both =>
    rw [m'] at read
    exact holds both.1 (first jumps both.1 both.2 m') both.2 b left read

theorem of_bind {m : Reading α} {f : α → Reading β} (holds : ∀ a, Gives (f a) Q) : Gives (m >>= f) Q :=
  (trivial m).bind fun a _ => holds a

theorem mapM {f : β → Reading α} (each : ∀ b, Gives (f b) P) (bs : List β) :
    Gives (bs.mapM f) fun as => ∀ a ∈ as, P a := by
  induction bs with
  | nil => exact .pure (List.forall_mem_nil P)
  | cons b bs ih =>
    rw [List.mapM_cons]
    exact (each b).bind fun a first => ih.bind fun as others =>
      .pure (List.forall_mem_cons.mpr ⟨first, others⟩)

end Gives

end Reading

structure OperationDefinition.Ordered (op : OperationDefinition) : Prop where
  params : op.params.Sorted
  headers : op.headers.Sorted

/-- Whether the maps of a definition are in the order of their names. -/
structure Definition.Ordered (d : Definition) : Prop where
  headers : d.headers.Sorted
  operations : ∀ op ∈ d.operations, op.Ordered

namespace Definition

open Reading

variable {Place : Type} {src : Source Place} {d : Definition}

/-- What a draft is before its first field, and stays with each field, it is at the end of its
record. -/
theorem readRecord_gives {Draft : Type} {names : List String}
    {field : String → Place → Draft → Reading Draft} {start : Draft} {P : Draft → Prop}
    (holds : P start) (keeps : ∀ name v draft, P draft → Gives (field name v draft) P) (p : Place) :
    Gives (readRecord src names field start p) P := by
  have go : ∀ entries seen draft, P draft →
      Gives (readRecord.go src names field entries seen draft) P := by
    intro entries
    induction entries with
    | nil => exact fun seen draft holds => .pure holds
    | cons entry rest ih =>
      intro seen draft holds
      rw [readRecord.go]
      refine .of_bind fun name => ?_
      split
      · split
        · exact .fail _
        · exact (keeps name entry.2 draft holds).bind fun next kept => ih _ next kept
      · exact .of_bind fun _ => ih seen draft holds
  exact .of_bind fun entries => go entries [] start holds

theorem readTexts_gives (p : Place) : Gives (readTexts src p) Fields.Sorted :=
  .of_bind fun _ => .of_bind fun pairs => .pure (Fields.sorted_ofPairs pairs)

theorem readList_gives {α : Type} {read : Place → Reading α} {P : α → Prop}
    (each : ∀ p, Gives (read p) P) (p : Place) : Gives (readList src read p) fun as => ∀ a ∈ as, P a :=
  .of_bind fun places => .mapM each places

theorem required_gives {α : Type} (name : String) (given : Option α) :
    Gives (required name given) (· ∈ given) := by
  cases given with
  | none => exact .fail _
  | some v => exact .pure rfl

theorem readOperation_gives (p : Place) : Gives (readOperation src p) OperationDefinition.Ordered := by
  refine .bind (P := fun draft => draft.params.Sorted ∧ draft.headers.Sorted)
    (readRecord_gives ⟨.nil, .nil⟩ ?_ p) ?_
  · intro name v draft ordered
    split
    case h_6 => exact (readTexts_gives v).bind fun params sorted => .pure ⟨sorted, ordered.2⟩
    case h_7 => exact (readTexts_gives v).bind fun headers sorted => .pure ⟨ordered.1, sorted⟩
    all_goals exact .of_bind fun _ => .pure ordered
  · intro draft ordered
    exact .of_bind fun _ => .of_bind fun _ => .of_bind fun _ => .pure ⟨ordered.1, ordered.2⟩

theorem readDefinition_gives (p : Place) : Gives (readDefinition src p) Ordered := by
  refine .bind (P := fun draft => draft.headers.Sorted ∧
    ∀ ops ∈ draft.operations, ∀ op ∈ ops, op.Ordered) (readRecord_gives ⟨.nil, nofun⟩ ?_ p) ?_
  · intro name v draft ordered
    split
    case h_4 => exact (readTexts_gives v).bind fun headers sorted => .pure ⟨sorted, ordered.2⟩
    case h_5 =>
      refine (readList_gives readOperation_gives v).bind fun ops each => .pure ⟨ordered.1, ?_⟩
      rintro _ ⟨⟩
      exact each
    all_goals exact .of_bind fun _ => .pure ordered
  · intro draft ordered
    refine .of_bind fun _ => .of_bind fun _ => ?_
    exact (required_gives "operations" draft.operations).bind fun ops given =>
      .pure ⟨ordered.1, ordered.2 ops given⟩

/-- What is loaded has its maps in order. -/
theorem ordered_of_load {text : String} (loaded : load text = .ok d) : d.Ordered := by
  rw [load] at loaded
  split at loaded
  · cases loaded
  · next read =>
    split at loaded
    · cases loaded
    · cases loaded
      rw [ofYaml] at read
      split at read
      · cases read
      · next whole =>
        split at read
        · cases read
          exact readDefinition_gives _ _ _ _ whole
        · cases read

end Definition

end Pager
