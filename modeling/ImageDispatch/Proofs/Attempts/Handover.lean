import ImageDispatch.Proofs.Attempts.Ladder

/-!
# The output on its way down the ladder

All attempts of an image detail enhancer write into one surface. A level that is left out may have
written into it before it failed, and the next level works on what it finds.

* `Host.Passes`: how the output goes from attempt to attempt.
* `Host.Passes.unchanged`, `Host.Passes.valid`: what is to be required of the algorithms of levels
  that are left out, so that the next one gets the output of the caller, or at least a valid one.
* `process_hands_over`: every call that succeeds below a level or at it.
-/

namespace ImageDispatch

open Act World

variable {σ : Type}

namespace Host

/-- Attempts that all have one input. The first is handed the output `s`, each other one what the
one before it has left, and the last one leaves `t`. -/
inductive Passes (host : Host σ) (f : FacadeId) (P : Option Parameter) (input : Surface) :
    Surface → List (Attempt σ) → Surface → Prop
  | nil {s : Surface} : Passes host f P input s [] s
  /-- An algorithm that works leaves what it has written, whether it succeeds or not. -/
  | works {a : Attempt σ} {rest : List (Attempt σ)} {s t u : Surface} {object : AlgorithmObject}
    {x : (Except Error Unit × Job) × World σ} (hjob : a.job = .transform input s)
    (h : host.ComesTo f P a object x) (hx : x.1.2 = .transform input t)
    (hrest : Passes host f P input t rest u) : Passes host f P input s (a :: rest) u
  /-- An attempt that does not come so far leaves the output as it was. -/
  | idles {a : Attempt σ} {rest : List (Attempt σ)} {s u : Surface}
    (hjob : a.job = .transform input s) (h : ∀ object x, ¬host.ComesTo f P a object x)
    (hrest : Passes host f P input s rest u) : Passes host f P input s (a :: rest) u

/-- If an attempt comes as far as the work of an algorithm, this leaves the surfaces alone. -/
def LeavesAlone (host : Host σ) (f : FacadeId) (P : Option Parameter) (a : Attempt σ) : Prop :=
  ∀ object x, host.ComesTo f P a object x → x.1.2 = a.job

/-- If an attempt comes as far as the work of an algorithm, the output keeps its geometry, format
and strides, and loses no data. -/
def KeepsLayout (host : Host σ) (f : FacadeId) (P : Option Parameter) (a : Attempt σ) : Prop :=
  ∀ object x input s t, host.ComesTo f P a object x → a.job = .transform input s →
    x.1.2 = .transform input t → t.SameLayout s ∧ s.data.size ≤ t.data.size

variable {host : Host σ} {f : FacadeId} {P : Option Parameter} {input s t u : Surface}
  {a : Attempt σ} {tries rest : List (Attempt σ)}

/-- An algorithm can write into the output only. -/
theorem work_output (o : ObjectId) (object : AlgorithmObject) (input s : Surface) (w : World σ) :
    ∃ t, (host.work o object (.transform input s) w).1.2 = .transform input t := by
  have hadopt : ∀ written, ∃ t, (Job.transform input s).adopt written = .transform input t := by
    intro written
    cases written <;> exact ⟨_, rfl⟩
  unfold work
  rw [bind_run]
  cases (host.invoke o .work _ _ w).1 with
  | mk r written =>
    cases r with
    | ok => exact hadopt written
    | error e => exact hadopt written

theorem ComesTo.output {object : AlgorithmObject} {x : (Except Error Unit × Job) × World σ}
    (h : host.ComesTo f P a object x) (hjob : a.job = .transform input s) :
    ∃ t, x.1.2 = .transform input t := by
  obtain ⟨o, v, v', -, -, -, rfl⟩ := h
  rw [hjob]
  exact work_output o object input s v'

namespace Passes

/-- What an attempt leaves is handed to the one that follows it. -/
theorem of_isChain (hc : (a :: rest).IsChain (host.Follows f P))
    (hq : ∀ b ∈ a :: rest, ∃ level, b.query = .detail level) (hjob : a.job = .transform input s) :
    ∃ t, host.Passes f P input s (a :: rest) t := by
  induction rest generalizing a s with
  | nil =>
    obtain ⟨level, hlevel⟩ := hq a List.mem_cons_self
    by_cases hworks : ∃ object x, host.ComesTo f P a object x
    · obtain ⟨object, x, hx⟩ := hworks
      obtain ⟨t, ht⟩ := hx.output hjob
      exact ⟨t, .works hjob hx ht .nil⟩
    · exact ⟨s, .idles hjob (fun object x hx => hworks ⟨object, x, hx⟩) .nil⟩
  | cons b rest ih =>
    obtain ⟨level, hlevel⟩ := hq a List.mem_cons_self
    obtain ⟨⟨hnext, -⟩, hrest⟩ := List.isChain_cons_cons.1 hc
    have hq' : ∀ b' ∈ b :: rest, ∃ level, b'.query = .detail level :=
      fun b' hb' => hq b' (List.mem_cons_of_mem _ hb')
    rcases host.outcome_cases f P hlevel with ⟨object, x, hx, hleft⟩ | ⟨hnone, e, hleft⟩
    · obtain ⟨t, ht⟩ := hx.output hjob
      obtain ⟨u, hu⟩ := ih hrest hq' (by rw [hnext, hleft, ht])
      exact ⟨u, .works hjob hx ht hu⟩
    · obtain ⟨u, hu⟩ := ih hrest hq' (by rw [hnext, hleft, hjob])
      exact ⟨u, .idles hjob hnone hu⟩

theorem append_iff : host.Passes f P input s (tries ++ rest) u ↔
    ∃ t, host.Passes f P input s tries t ∧ host.Passes f P input t rest u := by
  induction tries generalizing s with
  | nil =>
    constructor
    · exact fun h => ⟨s, .nil, h⟩
    · rintro ⟨t, ⟨⟩, h⟩
      exact h
  | cons a tries ih =>
    constructor
    · rintro (_ | ⟨hjob, h, hx, hrest⟩ | ⟨hjob, h, hrest⟩)
      · obtain ⟨t, ht, hu⟩ := ih.1 hrest
        exact ⟨t, .works hjob h hx ht, hu⟩
      · obtain ⟨t, ht, hu⟩ := ih.1 hrest
        exact ⟨t, .idles hjob h ht, hu⟩
    · rintro ⟨t, _ | ⟨hjob, h, hx, hrest⟩ | ⟨hjob, h, hrest⟩, hu⟩
      · exact .works hjob h hx (ih.2 ⟨t, hrest, hu⟩)
      · exact .idles hjob h (ih.2 ⟨t, hrest, hu⟩)

/-- Attempts that write nothing hand on what was handed to the first one. -/
theorem unchanged (h : host.Passes f P input s tries t)
    (hall : ∀ a ∈ tries, host.LeavesAlone f P a) : t = s := by
  induction h with
  | nil => rfl
  | works hjob hcomes hx _ ih =>
    have hsame := hall _ List.mem_cons_self _ _ hcomes
    rw [hx, hjob] at hsame
    cases hsame
    exact ih fun b hb => hall b (List.mem_cons_of_mem _ hb)
  | idles _ _ _ ih => exact ih fun b hb => hall b (List.mem_cons_of_mem _ hb)

/-- Attempts that keep the layout are all handed a valid output, and leave one. -/
theorem valid (h : host.Passes f P input s tries t) (hs : s.defect? = none)
    (hall : ∀ a ∈ tries, host.KeepsLayout f P a) :
    t.defect? = none ∧ ∀ a ∈ tries, ∃ s', a.job = .transform input s' ∧ s'.defect? = none := by
  induction h with
  | nil => exact ⟨hs, fun a ha => absurd ha List.not_mem_nil⟩
  | works hjob hcomes hx _ ih =>
    obtain ⟨hlayout, hsize⟩ := hall _ List.mem_cons_self _ _ _ _ _ hcomes hjob hx
    obtain ⟨ht, hrest⟩ :=
      ih (hlayout.defect? hsize hs) fun b hb => hall b (List.mem_cons_of_mem _ hb)
    exact ⟨ht, List.forall_mem_cons.2 ⟨⟨_, hjob, hs⟩, hrest⟩⟩
  | idles hjob _ _ ih =>
    obtain ⟨ht, hrest⟩ := ih hs fun b hb => hall b (List.mem_cons_of_mem _ hb)
    exact ⟨ht, List.forall_mem_cons.2 ⟨⟨_, hjob, hs⟩, hrest⟩⟩

end Passes

namespace Descent

variable {target : DetailLevel} {job left : Job} {w v : World σ} {call : Reply × World σ}

theorem query (h : host.Descent f P target job w v tries call) (ha : a ∈ tries) :
    ∃ level, a.query = .detail level := by
  obtain ⟨levels, hqueries, -⟩ := h.levels
  obtain ⟨level, -, he⟩ := List.mem_map.1 (hqueries ▸ List.mem_map_of_mem ha)
  exact ⟨level, he.symm⟩

/-- The output goes through all attempts of a call. -/
theorem passes (h : host.Descent f P target (.transform input s) w v tries call) :
    ∃ t, host.Passes f P input s tries t := by
  cases tries with
  | nil => cases h.begins
  | cons first rest =>
    have hfirst : first = _ := Option.some.inj h.begins
    exact Passes.of_isChain h.follows (fun b hb => h.query hb) (by rw [hfirst])

/-- A call that succeeds leaves what its last attempt leaves, the only one that succeeds. -/
theorem succeeds (h : host.Descent f P target job w v tries call)
    (hleft : call.1 = .worked (.ok ()) left) :
    ∃ failed a, tries = failed ++ [a] ∧ host.Succeeds f P a ∧
      (∀ b ∈ failed, ¬host.Succeeds f P b) ∧ left = (host.outcome f .detail P a).1.2 := by
  obtain ⟨r, last, hlast, hreply, hok, -⟩ := h.result
  obtain ⟨rfl, rfl⟩ := Reply.worked.inj (hreply.symm.trans hleft)
  rcases h.ends with ⟨failed, a, rfl, ha, hfailed⟩ | ⟨-, hnone⟩
  · obtain rfl : a = last := by simpa using hlast
    exact ⟨failed, a, rfl, ha, hfailed, rfl⟩
  · obtain ⟨b, hb, hsucceeds⟩ := hok.1 rfl
    exact absurd hsucceeds (hnone b hb)

end Descent

end Host

/-- Every call of an image detail enhancer that goes down the ladder and succeeds, with code of
others that does as it likes. The attempts that have failed hand the output on, and what the call
leaves is what the algorithm of the last attempt makes of the input of the call and the surface that
was handed to it, after its parameter was pushed into it. This is the output of the call if no
algorithm that has failed left another one, and a valid one if they all keep its layout. -/
theorem process_hands_over (env : Environment σ) (depth : Nat) {w : World σ} {f : FacadeId}
    {facade : Facade} {input output : Surface} {left : Job} (hf : w.facade? f = some facade)
    (hk : facade.kind = .detail)
    (hP : ∀ p, facade.parameter = some p → Facade.check .detail p = .ok ())
    (hi : input.validate = .ok ()) (ho : output.validate = .ok ())
    (hshape : input.sameShape output = false)
    (hleft : ((Host.nested env depth).process f (.detail input output) w).1 =
      .worked (.ok ()) left) :
    let host := Host.nested env depth
    let task := Task.detail input output
    let P := facade.parameter
    ∃ failed a object handed result w',
      host.Descent f P (task.target P) (.transform input output) w
        (host.openCall f .detail task w).2 (failed ++ [a]) (host.process f task w) ∧
      (∀ b ∈ failed, ¬host.Succeeds f P b) ∧
      host.Passes f P input output failed handed ∧ a.job = .transform input handed ∧
      host.ComesTo f P a object ((.ok (), .transform input result), w') ∧
      left = .transform input result ∧
      ((∀ b ∈ failed, host.LeavesAlone f P b) → handed = output) ∧
      ((∀ b ∈ failed, host.KeepsLayout f P b) →
        ∀ b ∈ failed ++ [a], b.job.validate = .ok ()) := by
  intro host task P
  have hdescent := host.process_ladder hf hk hP hi ho hshape
  generalize host.rungs f P (task.target P) _ _ = tries at hdescent
  obtain ⟨failed, a, rfl, ⟨object, ⟨⟨r, job⟩, w'⟩, hcomes, hwork⟩, hfailed, rfl⟩ :=
    hdescent.succeeds hleft
  obtain rfl : r = .ok () := hwork
  -- The output goes through the attempts that have failed, and then to the last one.
  obtain ⟨t, ht⟩ := hdescent.passes
  obtain ⟨handed, hhanded, hrest⟩ := Host.Passes.append_iff.1 ht
  have hjob : a.job = .transform input handed := by cases hrest <;> assumption
  obtain ⟨result, hresult⟩ := hcomes.output hjob
  obtain rfl : job = .transform input result := hresult
  obtain ⟨level, hlevel⟩ := hdescent.query (a := a) (by simp)
  refine ⟨failed, a, object, handed, result, w', hdescent, hfailed, hhanded, hjob, hcomes,
    congrArg Prod.snd (hcomes.outcome_eq hlevel), hhanded.unchanged, fun hall b hb => ?_⟩
  obtain ⟨hvalid, hall⟩ := hhanded.valid (Surface.validate_eq_ok.1 ho) hall
  obtain ⟨s, hs, hd⟩ : ∃ s, b.job = .transform input s ∧ s.defect? = none := by
    rcases List.mem_append.1 hb with hb | hb
    · exact hall b hb
    · rw [List.mem_singleton.1 hb]
      exact ⟨handed, hjob, hvalid⟩
  rw [hs]
  exact Host.detailJob_valid hi (Surface.validate_eq_ok.2 hd)

/-- Surroundings with an extension for each of two levels. The one for the high level takes all data
from the output and fails. The one for the low level fills the data. -/
def Environment.halfDone : Environment Unit :=
  { Environment.linked [
      ⟨⟨.detailEnhancer, "high", "1"⟩, .detail [⟨[.high], .default, 1⟩], ⟨0⟩⟩,
      ⟨⟨.detailEnhancer, "low", "1"⟩, .detail [⟨[.low], .default, 1⟩], ⟨1⟩⟩] with
    code := { (Environment.linked []).code with
      create := fun c memory => .done memory (some c.number)
      work := fun token job memory => match token, job with
        | 0, .transform input output =>
          .done memory
            (.error (.invalidState "half done"), .transform input { output with data := #[] })
        | _, .transform input output =>
          .done memory
            (.ok (), .transform input { output with data := output.data.map fun _ => 7 })
        | _, job => .done memory (.ok (), job) } }

/-- An image detail enhancer was made there and asked for high quality. -/
theorem halfDone_facade : ∃ w facade, World.askedForHigh .halfDone = w ∧
    w.facade? 0 = some facade ∧ facade.kind = .detail ∧
    facade.parameter = some (.detail ⟨"", .high⟩) := by
  have hkind : ((World.askedForHigh .halfDone).facade? 0).map Facade.kind = some .detail := by
    decide +kernel
  have hparameter : ((World.askedForHigh .halfDone).facade? 0).bind Facade.parameter =
      some (.detail ⟨"", .high⟩) := by
    decide +kernel
  obtain ⟨facade, hf, hk⟩ := Option.map_eq_some_iff.1 hkind
  exact ⟨_, facade, rfl, hf, hk, by rwa [hf] at hparameter⟩

/-- What the low level leaves there has no data, since it was handed none. -/
theorem process_hands_over_empty :
    let host := Host.nested .halfDone 0
    let input := Surface.packed 1 1 .rgba8888
    let output := Surface.packed 2 1 .rgba8888
    let P := some (Parameter.detail ⟨"", .high⟩)
    let empty := { output with data := #[] }
    input.validate = .ok () ∧ output.validate = .ok () ∧ input.sameShape output = false ∧
    ∃ w failed a object handed w', World.askedForHigh .halfDone = w ∧
      (w.facade? 0).map Facade.kind = some .detail ∧ (w.facade? 0).bind Facade.parameter = P ∧
      (host.process 0 (.detail input output) w).1 = .worked (.ok ()) (.transform input empty) ∧
      host.Descent 0 P .high (.transform input output) w
        (host.openCall 0 .detail (.detail input output) w).2 (failed ++ [a])
        (host.process 0 (.detail input output) w) ∧
      host.Passes 0 P input output failed handed ∧
      host.ComesTo 0 P a object ((.ok (), .transform input empty), w') := by
  intro host input output P empty
  have hi : input.validate = .ok () := by decide +kernel
  have ho : output.validate = .ok () := by decide +kernel
  have hshape : input.sameShape output = false := by decide
  have hdispatch : (host.dispatch 0 .detail (.detail input output)
      (host.openCall 0 .detail (.detail input output) (World.askedForHigh .halfDone)).2).1 =
      (.ok (), .transform input empty) := by decide +kernel
  obtain ⟨w, facade, hw, hf, hk, hP⟩ := halfDone_facade
  rw [hw] at hdispatch
  have hleft : (host.process 0 (.detail input output) w).1 =
      .worked (.ok ()) (.transform input empty) := by
    rw [host.process_valid hf (by rw [hk]; rfl) (Host.detailJob_valid hi ho), hk, hdispatch]
  obtain ⟨failed, a, object, handed, result, w', hdescent, -, hhanded, -, hcomes, he, -⟩ :=
    process_hands_over .halfDone 0 hf hk (Facade.check_high hP) hi ho hshape hleft
  have htarget : (Task.detail input output).target P = .high := by decide
  rw [hP] at hdescent hhanded hcomes
  rw [htarget] at hdescent
  rw [← he] at hcomes
  exact ⟨hi, ho, hshape, w, failed, a, object, handed, w', hw, by rw [hf, ← hk]; rfl,
    by rw [hf, Option.bind_some, hP], hleft, hdescent, hhanded, hcomes⟩

/-- The low level works on what the high level has left. On the output of the caller it would have
left another one, and what it is handed is not even valid. -/
theorem process_hands_over_halfDone :
    let host := Host.nested .halfDone 0
    let input := Surface.packed 1 1 .rgba8888
    let output := Surface.packed 2 1 .rgba8888
    let P := some (Parameter.detail ⟨"", .high⟩)
    ∃ w failed a left wanted, World.askedForHigh .halfDone = w ∧
      host.Descent 0 P .high (.transform input output) w
        (host.openCall 0 .detail (.detail input output) w).2 (failed ++ [a])
        (host.process 0 (.detail input output) w) ∧
      a.query = .detail .low ∧ host.Succeeds 0 P a ∧
      (host.process 0 (.detail input output) w).1 = .worked (.ok ()) (.transform input left) ∧
      (host.outcome 0 .detail P { a with job := .transform input output }).1 =
        (.ok (), .transform input wanted) ∧
      wanted.data = #[7, 7, 7, 7, 7, 7, 7, 7] ∧ left.data = #[] ∧ a.job.validate ≠ .ok () := by
  intro host input output P
  have hi : input.validate = .ok () := by decide +kernel
  have ho : output.validate = .ok () := by decide +kernel
  -- The last attempt, and what it would leave of the output of the caller.
  have hlast : ((host.rungs 0 P .high (.transform input output)
      (host.openCall 0 .detail (.detail input output)
        (World.askedForHigh .halfDone)).2).getLast?.map fun a =>
        (a.query, a.job.validate.isOk, (host.outcome 0 .detail P a).1)) =
      some (.detail .low, false, .ok (), .transform input { output with data := #[] }) := by
    decide +kernel
  have hwould : ((host.rungs 0 P .high (.transform input output)
      (host.openCall 0 .detail (.detail input output)
        (World.askedForHigh .halfDone)).2).getLast?.map fun a =>
        (host.outcome 0 .detail P { a with job := .transform input output }).1) =
      some (.ok (), .transform input { output with data := #[7, 7, 7, 7, 7, 7, 7, 7] }) := by
    decide +kernel
  obtain ⟨w, facade, hw, hf, hk, hP⟩ := halfDone_facade
  rw [hw] at hlast hwould
  have hdescent := host.process_ladder hf hk (Facade.check_high hP) hi ho (by decide)
  have htarget : (Task.detail input output).target P = .high := by decide
  rw [hP, htarget] at hdescent
  generalize host.rungs 0 P .high _ _ = tries at hdescent hlast hwould
  obtain ⟨last, hget, hfacts⟩ := Option.map_eq_some_iff.1 hlast
  rw [hget] at hwould
  obtain ⟨hquery, hinvalid, hout⟩ : last.query = _ ∧ last.job.validate.isOk = false ∧ _ := by
    simpa only [Prod.mk.injEq] using hfacts
  have hsucceeds : host.Succeeds 0 P last :=
    (Host.outcome_eq_ok_iff hquery).1 (congrArg Prod.fst hout)
  obtain ⟨r, last', hget', hreply, hok, -⟩ := hdescent.result
  obtain rfl : last = last' := Option.some.inj (hget.symm.trans hget')
  obtain rfl := hok.2 ⟨last, List.mem_of_getLast? hget, hsucceeds⟩
  rcases hdescent.ends with ⟨failed, a, rfl, -, -⟩ | ⟨-, hnone⟩
  · obtain rfl : a = last := by simpa using hget
    refine ⟨w, failed, a, _, _, hw, hdescent, hquery, hsucceeds, by rw [hreply, hout],
      Option.some.inj hwould, rfl, rfl, fun hvalid => ?_⟩
    rw [hvalid] at hinvalid
    cases hinvalid
  · exact absurd hsucceeds (hnone last (List.mem_of_getLast? hget))

end ImageDispatch
