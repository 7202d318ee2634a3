import Pager.Binding

namespace Pager

theorem Except.bind_eq_ok {ε α β : Type} {x : Except ε α} {f : α → Except ε β} {b : β} :
    (x >>= f) = .ok b ↔ ∃ a, x = .ok a ∧ f a = .ok b := by
  cases x <;> simp [bind, Except.bind]

theorem Except.ok_bind {ε α β : Type} (a : α) (f : α → Except ε β) : (Except.ok a >>= f) = f a :=
  rfl

theorem Except.error_bind {ε α β : Type} (e : ε) (f : α → Except ε β) :
    (Except.error e >>= f) = .error e :=
  rfl

theorem Except.map_eq_ok {ε α β : Type} {x : Except ε α} {f : α → β} {b : β} :
    x.map f = .ok b ↔ ∃ a, x = .ok a ∧ f a = b := by
  cases x <;> simp [Except.map]

theorem Except.toOption_eq_some {ε α : Type} {x : Except ε α} {a : α} :
    x.toOption = some a ↔ x = .ok a := by
  cases x <;> simp [Except.toOption]

/-- The fault, if there is no result. -/
def Except.fault? {ε α : Type} : Except ε α → Option ε
  | .error e => some e
  | .ok _ => none

theorem Except.fault?_eq_some {ε α : Type} {x : Except ε α} {e : ε} :
    Except.fault? x = some e ↔ x = .error e := by
  cases x <;> simp [Except.fault?]

theorem Except.fault?_eq_none {ε α : Type} {x : Except ε α} :
    Except.fault? x = none ↔ ∃ a, x = .ok a := by
  cases x <;> simp [Except.fault?]

theorem Except.fault?_map {ε α β : Type} (x : Except ε α) (f : α → β) :
    Except.fault? (x.map f) = Except.fault? x := by
  cases x <;> rfl

theorem Except.fault?_bind {ε α β : Type} (x : Except ε α) (f : α → Except ε β) :
    Except.fault? (x >>= f) = (Except.fault? x).or (x.toOption.bind fun a => Except.fault? (f a)) := by
  cases x with
  | error e => rfl
  | ok a => exact Option.none_or.symm

namespace Definition

variable {d : Definition} {op : OperationDefinition} {env : Template.Environment}
variable {supplied : List (String × String)} {b : Binding}

/-- The parts of a binding, in the order they are made. -/
theorem bindOperation_ok (bound : d.bindOperation op env supplied = .ok b) :
    ∃ parameters url query headers body,
      bindParameters op supplied = .ok parameters ∧
      address d.baseUrl op.path ⟨parameters.toJson, some env⟩ = .ok url ∧
      renderTexts ⟨parameters.toJson, some env⟩ op.params = .ok query ∧
      renderTexts ⟨parameters.toJson, some env⟩
        ((d.headers.filter fun (_, template) => refersToDeclared template parameters) ++ op.headers) =
          .ok headers ∧
      renderBody ⟨parameters.toJson, some env⟩ op.body = .ok body ∧
      b = ⟨⟨op.name, url, op.method, query, headers, body,
          ⟨op.cursor.param, op.cursor.location, op.cursor.responsePath⟩, op.pageSize, op.itemsPath⟩,
        parameters, d.http.settings⟩ := by
  unfold bindOperation at bound
  simp only [Except.bind_eq_ok] at bound
  obtain ⟨parameters, bind, url, addressed, query, queried, headers, headed, body, rendered, same⟩ := bound
  exact ⟨parameters, url, query, headers, body, bind, addressed, queried, headed, rendered,
    (Except.ok.inj same).symm⟩

theorem bind_ok {name : String} (bound : d.bind env name supplied = .ok b) :
    ∃ op, d.operation? name = some op ∧ d.bindOperation op env supplied = .ok b := by
  unfold bind at bound
  split at bound
  · rename_i op found
    exact ⟨op, found, bound⟩
  · cases bound

end Definition

end Pager
