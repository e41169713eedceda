import ImageDispatch.Dispatch.Extensions
import ImageDispatch.Proofs.Selection.Claimants

/-!
# Finding, asking and creating agree

* `Host.collected`: the extensions that a query of a dispatcher goes through.
* `Host.find_eq`, `Host.supports_eq`, `Host.create_eq`: the three ways to ask for a key depend on
  the same selection from them.
* `Host.selection_spec`: what they answer, for the queries whose map keeps all candidates.
-/

namespace ImageDispatch

/-- Whatever the state is, the answer of the action has the property. -/
def Act.Answers {σ α : Type} (a : Act σ α) (P : α → Prop) : Prop := ∀ w, P (a w).1

theorem Act.Answers.bind {σ α β : Type} {a : Act σ α} {f : α → Act σ β} {P : β → Prop}
    (h : ∀ x, (f x).Answers P) : (a >>= f).Answers P :=
  fun w => h (a w).1 (a w).2

theorem Act.Answers.ret {σ α : Type} {x : α} {P : α → Prop} (h : P x) :
    (pure x : Act σ α).Answers P :=
  fun _ => h

/-- Surroundings in which the extensions of a list are linked in. Their algorithms do nothing. -/
def Environment.linked (list : List Descriptor) : Environment Unit where
  config := {}
  statics := [⟨"linked", .general, some fun memory => .done memory list⟩]
  loader _ _ := .error "no library"
  code := {
    create _ memory := .done memory (some 0)
    init _ memory := .done memory (.ok ())
    deinit _ memory := .done memory (.ok ())
    set _ _ memory := .done memory (.ok ())
    get _ memory := .done memory none
    work _ job memory := .done memory (.ok (), job)
    rate _ _ memory := .done memory (.ok 0) }

namespace Host

variable {σ : Type}

open Act

/-- What a query does before it collects extensions. -/
def openQuery (host : Host σ) (q : Query) : Act σ Unit := do
  modify fun w => { w with queries := w.queries + 1 }
  count (.queries q.type)
  if host.env.config.spans.queries then
    emit (.span .trace "capability_query" [("family", q.type.label)])

/-- The extensions that a query goes through. They are collected anew. -/
def collected (host : Host σ) (q : Query) (w : World σ) : List Descriptor :=
  (host.load q.family true true (host.openQuery q w).2).1

theorem find_eq (host : Host σ) (q : Query) (w : World σ) :
    (host.find q w).1 = q.select? (host.collected q w) := by
  unfold collected openQuery find
  cases host.env.config.spans.queries <;> rfl

theorem supports_eq (host : Host σ) (q : Query) (w : World σ) :
    (host.supports q w).1 = (host.find q w).1.isSome := rfl

theorem create_eq (host : Host σ) (q : Query) (w : World σ) :
    (host.create q w).1 = match (host.find q w).1 with
      | none => .error q.notFound
      | some s => (host.instantiate s (host.find q w).2).1 := by
  show ((match (host.find q w).1 with
    | none => pure (.error q.notFound)
    | some s => host.instantiate s : Act σ (Except Error ObjectId)) (host.find q w).2).1 = _
  cases (host.find q w).1 <;> rfl

/-- An extension that was found is not missing, even if it fails to be created. -/
theorem instantiate_ne_notFound (host : Host σ) (s : Selection) (family key : String) :
    (host.instantiate s).Answers (· ≠ .error (.capabilityNotFound family key)) := by
  refine .bind fun token => ?_
  cases token with
  | none => exact .bind fun _ => .bind fun _ => .ret (by simp)
  | some token =>
    refine .bind fun o => .bind fun r => ?_
    cases r with
    | error e => exact .bind fun _ => .bind fun _ => .ret (by simp)
    | ok => exact .bind fun _ => .bind fun _ => .bind fun _ => .ret (by simp)

/-- A key is missing for a creation exactly if it is for a query. -/
theorem create_notFound_iff (host : Host σ) (q : Query) (w : World σ) :
    (∃ family key, (host.create q w).1 = .error (.capabilityNotFound family key)) ↔
      (host.find q w).1 = none := by
  rw [create_eq]
  cases (host.find q w).1 with
  | none => exact ⟨fun _ => rfl, fun _ => ⟨_, _, rfl⟩⟩
  | some s =>
    refine ⟨fun ⟨family, key, h⟩ => ?_, nofun⟩
    exact absurd h (host.instantiate_ne_notFound s family key _)

/-- Queries whose map keeps all candidates of a key. Of every list of extensions they select the
first claimant of high rank, or else the first one, and none only if there is no claimant. A
conversion capability claims the pairs of formats that it lists. To ask whether a key is supported,
and to create an algorithm for it, depends on what is found among the extensions registered now. -/
theorem selection_spec (host : Host σ) (q : Query) (hq : ∀ level, q ≠ .detail level) :
    (∀ list, (q.select? list = none ↔ q.claimants list = []) ∧
      ∀ first rest, q.claimants list = first :: rest → q.select? list =
        some (((first :: rest).find? fun s => s.rank = .high).getD first)) ∧
    (∀ (c : ConversionCoverage) (k : ConversionKey), k ∈ c.keys ↔
      k.inputSpace = c.inputSpace ∧ k.outputSpace = c.outputSpace ∧
        k.outputFormat ∈ c.outputs k.inputFormat) ∧
    ∀ w, (host.find q w).1 = q.select? (host.collected q w) ∧
      ((host.supports q w).1 = true ↔ (host.find q w).1 ≠ none) ∧
      ((host.find q w).1 = none → (host.create q w).1 = .error q.notFound) ∧
      ((∃ family key, (host.create q w).1 = .error (.capabilityNotFound family key)) ↔
        (host.find q w).1 = none) := by
  refine ⟨fun list => ?_, fun c k => ConversionCoverage.mem_keys, fun w => ⟨host.find_eq q w, ?_,
    fun h => by rw [create_eq, h], host.create_notFound_iff q w⟩⟩
  · rw [Query.select?_eq_preferred hq]
    cases q.claimants list with
    | nil => exact ⟨by simp [Query.preferred?], by simp⟩
    | cons s rest =>
      have h : Query.preferred? (s :: rest) =
          some (((s :: rest).find? fun s => s.rank = .high).getD s) := by
        rw [Query.preferred?, List.head?_cons]
        cases (s :: rest).find? fun s => s.rank = .high <;> rfl
      refine ⟨by simp [h], fun first rest' e => ?_⟩
      cases e
      exact h
  · rw [supports_eq, Option.isSome_iff_ne_none]

/-- Of two choices of a refresh rate the one of high rank is selected, although it comes later. -/
theorem selection_spec_refresh :
    (∀ level, Query.refresh ≠ .detail level) ∧
      Query.refresh.select?
        [⟨⟨.refreshRate, "plain", "1"⟩, .refresh [⟨(), .default, 7⟩], ⟨0⟩⟩,
          ⟨⟨.refreshRate, "better", "2"⟩, .refresh [⟨(), .high, 3⟩], ⟨1⟩⟩] =
        some ⟨⟨.refreshRate, "better", "2"⟩, .high, 3, ⟨1⟩⟩ := by
  have h := selection_spec ⟨.linked [], fun _ => pure .refused⟩ .refresh nofun
  exact ⟨nofun, ((h.1 _).2 ⟨⟨.refreshRate, "plain", "1"⟩, .default, 7, ⟨0⟩⟩
    [⟨⟨.refreshRate, "better", "2"⟩, .high, 3, ⟨1⟩⟩] rfl).trans rfl⟩

end Host

end ImageDispatch
