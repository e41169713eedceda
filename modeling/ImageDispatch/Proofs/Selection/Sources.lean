import ImageDispatch.Dispatch.Answer
import ImageDispatch.Proofs.Lifetime.Triple
import ImageDispatch.Proofs.Selection.Find

/-!
# Sources of extensions

What the extensions of a family are made of, and what a dynamic source that fails adds to them.

* `Host.Pushes`: what is linked in pushes its extensions, one registration after another.
* `contribution`: what counts of a source, if one that fails contributes nothing.
* `Foreign.Ends`: what holds of each answer that a run of code of others can end with.
  `Environment.TakesBack`: the source takes back what it has appended when it fails. The vendor
  library never has anything to take back (`Host.registerLibrary_fails`).
* `Host.sources_spec`: the extensions that are collected, and the queries that go through them.
* `Host.sources_spec_halfRegistered`: what a source has appended before it fails counts, and wins a
  query.
-/

namespace ImageDispatch

open Act

variable {σ α : Type}

/-! ## What a run can end with -/

/-- The run ends with an answer that has the property, whatever is replied to what it asks. -/
def Foreign.Ends (P : α → Prop) : Foreign σ α → Prop
  | .done _ answer => P answer
  | .ask _ _ resume => ∀ memory reply, (resume memory reply).Ends P

theorem Foreign.Ends.run {P : α → Prop} {code : Foreign σ α} (h : code.Ends P)
    (serve : Request → Act σ Reply) : (code.run serve).Answers P := by
  induction code with
  | done memory answer => exact fun _ => h
  | ask memory request resume ih =>
    intro w
    exact ih _ _ (h _ _) _

/-- A source takes back what it has appended when it fails. -/
def Provider.TakesBack (p : Provider σ) : Prop :=
  ∀ family memory, (p.register family memory).Ends fun x => x.2.isOk = false → x.1 = []

/-- The source that the configuration leaves takes back what it has appended when it fails. -/
def Environment.TakesBack (env : Environment σ) : Prop :=
  ∀ p, env.source = .provider p → p.TakesBack

/-- What counts of what a source has appended, if nothing does when it fails. -/
def contribution (x : List Descriptor × Except LoadError Nat) : List Descriptor :=
  if x.2.isOk then x.1 else []

theorem eq_contribution_iff {x : List Descriptor × Except LoadError Nat} :
    x.1 = contribution x ↔ x.2.isOk = true ∨ x.1 = [] := by
  unfold contribution
  by_cases h : x.2.isOk = true <;> simp [h]

/-- The surroundings without a source of dynamic extensions. -/
def Environment.alone (env : Environment σ) : Environment σ :=
  { env with config := { env.config with dynamicLoading := false } }

namespace Host

/-! ## What is linked in -/

/-- The registrations of a list push the extensions of a family, one registration after another. -/
inductive Pushes (host : Host σ) (family : ExtensionFamily) :
    List (Registration σ) → World σ → List Descriptor → World σ → Prop
  | nil (w : World σ) : Pushes host family [] w [] w
  /-- A registration of another family does not run. -/
  | other {r : Registration σ} {rest : List (Registration σ)} {w w' : World σ}
    {list : List Descriptor} (hfamily : r.family ≠ family) (h : Pushes host family rest w list w') :
    Pushes host family (r :: rest) w list w'
  /-- One that is left out of the build is reported. -/
  | missing {r : Registration σ} {rest : List (Registration σ)} {w w' : World σ}
    {list : List Descriptor} (hfamily : r.family = family) (hmissing : r.register = none)
    (h : Pushes host family rest
      (w.note (.log .warn s!"static registration '{r.name}' is missing, skipping")) list w') :
    Pushes host family (r :: rest) w list w'
  | present {r : Registration σ} {rest : List (Registration σ)} {w w₁ w' : World σ}
    {register : Register σ} {pushed list : List Descriptor} (hfamily : r.family = family)
    (hregister : r.register = some register) (hrun : host.runForeign register w = (pushed, w₁))
    (h : Pushes host family rest w₁ list w') :
    Pushes host family (r :: rest) w (pushed ++ list) w'

theorem runRegistration_missing {host : Host σ} {r : Registration σ} (h : r.register = none)
    {w : World σ} : host.runRegistration r w =
      ([], w.note (.log .warn s!"static registration '{r.name}' is missing, skipping")) := by
  unfold runRegistration
  rw [h]
  rfl

theorem runRegistration_present {host : Host σ} {r : Registration σ} {register : Register σ}
    (h : r.register = some register) {w : World σ} :
    host.runRegistration r w = host.runForeign register w := by
  unfold runRegistration
  rw [h]

theorem pushes_registrations (host : Host σ) (family : ExtensionFamily)
    (registrations : List (Registration σ)) (w : World σ) :
    let r := (registrations.filter fun r => r.family = family).mapM host.runRegistration w
    host.Pushes family registrations w r.1.flatten r.2 := by
  induction registrations generalizing w with
  | nil => exact .nil w
  | cons r rest ih =>
    by_cases hfamily : r.family = family
    · rw [List.filter_cons_of_pos (by simpa using hfamily), List.mapM_cons]
      cases hregister : r.register with
      | none =>
        rw [bind_of_run (runRegistration_missing hregister)]
        exact .missing hfamily hregister (ih _)
      | some register =>
        rw [bind_of_run (runRegistration_present hregister)]
        exact .present hfamily hregister rfl (ih _)
    · rw [List.filter_cons_of_neg (by simpa using hfamily)]
      exact .other hfamily (ih w)

theorem loadStatic_pushes (host : Host σ) (family : ExtensionFamily) (w : World σ) :
    host.Pushes family host.env.statics w (host.loadStatic family w).1
      (host.loadStatic family w).2 :=
  host.pushes_registrations family host.env.statics w

/-! ## The dynamic source -/

/-- What the source has appended counts, however it ends. -/
theorem loadDynamic_fst (host : Host σ) (family : ExtensionFamily) (w : World σ) :
    (host.loadDynamic family w).1 = (host.registerSource family w).1.1 := by
  unfold loadDynamic
  cases hname : host.env.sourceName? with
  | none =>
    unfold Environment.sourceName? at hname
    unfold registerSource
    cases hsource : host.env.source with
    | none => rfl
    | _ => rw [hsource] at hname; cases hname
  | some name =>
    dsimp only
    rw [bind_run]
    rcases (host.registerSource family w).1 with ⟨list, e | n⟩
    · cases e <;> rfl
    · rfl

/-- The vendor library has appended nothing when it fails. -/
theorem registerLibrary_fails {host : Host σ} {family : ExtensionFamily} {path : String}
    (hsource : host.env.source = .library path) (w : World σ)
    (hfails : (host.registerSource family w).1.2.isOk = false) :
    (host.registerSource family w).1.1 = [] := by
  unfold registerSource at hfails ⊢
  rw [hsource] at hfails ⊢
  dsimp only at hfails ⊢
  rw [bind_run] at hfails ⊢
  cases hr : (host.registerLibrary family w).1 with
  | error e => rfl
  | ok list => rw [hr] at hfails; cases hfails

/-- A source that takes back what it has appended contributes nothing when it fails. -/
theorem registerSource_fails {host : Host σ} (h : host.env.TakesBack) {family : ExtensionFamily}
    (w : World σ) (hfails : (host.registerSource family w).1.2.isOk = false) :
    (host.registerSource family w).1.1 = [] := by
  cases hsource : host.env.source with
  | none =>
    unfold registerSource
    rw [hsource]
    rfl
  | library path => exact registerLibrary_fails hsource w hfails
  | provider p =>
    have hends := (h p hsource family w.memory).run host.serve w
    unfold registerSource at hfails ⊢
    rw [hsource] at hfails ⊢
    exact hends hfails

/-! ## Collecting and asking -/

theorem load_fst (host : Host σ) (family : ExtensionFamily) (w : World σ) :
    (host.load family true true w).1 =
      (host.loadStatic family w).1 ++
        (host.registerSource family (host.loadStatic family w).2).1.1 := by
  rw [← loadDynamic_fst]
  rfl

/-- The dispatcher without its source of dynamic extensions. -/
def alone (host : Host σ) : Host σ := { host with env := host.env.alone }

/-- Without a source there is only what is linked in. -/
theorem load_alone (host : Host σ) (family : ExtensionFamily) (w : World σ) :
    (host.alone.load family true true w).1 = (host.loadStatic family w).1 := by
  rw [load_fst]
  exact List.append_nil _

theorem openQuery_alone (host : Host σ) (q : Query) : host.alone.openQuery q = host.openQuery q :=
  rfl

/-- The extensions of a family are those that are linked in, in the order of the registrations,
followed by all that the dynamic source has appended, also before a failure. So they are what they
ought to be, with nothing from a source that fails, exactly if the source succeeds or has appended
nothing. A source that takes back what it has appended, as the vendor library does, makes no
difference to a query in which it fails: the same extension is found as without a source, and is
the one that is created. -/
theorem sources_spec (host : Host σ) :
    (∀ family w, ∃ linked w₁, host.Pushes family host.env.statics w linked w₁ ∧
      (host.load family true true w).1 = linked ++ (host.registerSource family w₁).1.1 ∧
      ((host.load family true true w).1 = linked ++ contribution (host.registerSource family w₁).1 ↔
        (host.registerSource family w₁).1.2.isOk = true ∨
          (host.registerSource family w₁).1.1 = []) ∧
      (host.env.TakesBack →
        (host.load family true true w).1 =
          linked ++ contribution (host.registerSource family w₁).1)) ∧
    (host.env.TakesBack → ∀ q w,
      (host.registerSource q.family
        (host.loadStatic q.family (host.openQuery q w).2).2).1.2.isOk = false →
      (host.find q w).1 = (host.alone.find q w).1 ∧
      (host.supports q w).1 = (host.alone.supports q w).1 ∧
      (host.create q w).1 = (host.alone.find q w).1.elim (.error q.notFound) fun s =>
        (host.instantiate s (host.find q w).2).1) ∧
    ∀ path, host.env.source = .library path → host.env.TakesBack := by
  refine ⟨fun family w => ⟨_, _, host.loadStatic_pushes family w, host.load_fst family w, ?exact,
    fun h => ?contributes⟩, fun h q w hfails => ?query, fun path hsource p hp => ?library⟩
  case exact =>
    rw [load_fst, List.append_cancel_left_eq]
    exact eq_contribution_iff
  case contributes =>
    rw [load_fst, List.append_cancel_left_eq]
    refine eq_contribution_iff.2 (or_iff_not_imp_left.2 fun hok => ?_)
    exact registerSource_fails h _ (Bool.eq_false_iff.2 hok)
  case query =>
    -- What fails has appended nothing, so both dispatchers collect the same list.
    have hcollected : host.collected q w = host.alone.collected q w := by
      unfold collected
      rw [openQuery_alone, load_alone, load_fst, registerSource_fails h _ hfails, List.append_nil]
    have hfind : (host.find q w).1 = (host.alone.find q w).1 := by
      rw [find_eq, find_eq, hcollected]
    refine ⟨hfind, by rw [supports_eq, supports_eq, hfind], ?_⟩
    rw [create_eq, hfind]
    cases (host.alone.find q w).1 <;> rfl
  case library =>
    rw [hsource] at hp
    cases hp

end Host

/-- Surroundings whose source appends the choice of a refresh rate, and fails then. -/
def Environment.halfRegistered : Environment Unit :=
  { Environment.linked [] with
    provider := some {
      name := "half"
      openUp := fun memory => .done memory (.ok ())
      close := fun memory => .done memory ()
      register := fun _ memory => .done memory
        ([⟨⟨.refreshRate, "left over", "1"⟩, .refresh [⟨(), .default, 1⟩], ⟨0⟩⟩],
          .error .nullTable) } }

/-- The source fails, and what it has appended is collected all the same. It wins a query that
nothing answers without the source. -/
theorem Host.sources_spec_halfRegistered :
    let host := Host.nested .halfRegistered 1
    let w : World Unit := { memory := () }
    (host.registerSource .general (host.loadStatic .general w).2).1.2.isOk = false ∧
      (host.load .general true true w).1 ≠ (host.loadStatic .general w).1 ∧
      (host.alone.find .refresh w).1 = none ∧
      (host.find .refresh w).1 = some ⟨⟨.refreshRate, "left over", "1"⟩, .default, 1, ⟨0⟩⟩ := by
  refine ⟨rfl, ?_, rfl, rfl⟩
  show [_] ≠ []
  exact List.cons_ne_nil _ _

end ImageDispatch
