import Mathlib.Data.List.Basic
import ImageDispatch.Proofs.Selection.Holders
import ImageDispatch.Selection.Query

/-!
# Claimants of a key

Which extensions claim a key, said without maps, positions, and lists of keys.

* `ConversionCoverage.covers` and the like: what a capability covers.
* `Query.claimants`: the capabilities that cover the key of a query, each with its extension, in
  the order of the list and of the declarations.
* `Query.select?_eq_preferred`: a query whose map keeps all candidates is answered with the first
  claimant of high rank, or else with the first one.
* `Query.select?_eq_none_iff`: every query is answered exactly if there is a claimant.
-/

namespace ImageDispatch

/-! ## Coverage -/

/-- The key is one of the conversions. -/
def ConversionCoverage.covers (c : ConversionCoverage) : Key → Bool
  | .conversion k =>
    k.inputSpace = c.inputSpace && k.outputSpace = c.outputSpace &&
      (c.outputs k.inputFormat).contains k.outputFormat
  | _ => false

/-- The key is one of the generations. -/
def GenerationCoverage.covers (c : GenerationCoverage) : Key → Bool
  | .generation k => k.space = c.space && c.formats.contains k.format && k.algorithm = c.algorithm
  | _ => false

/-- The rank and version of a capability. -/
def Declared.standing {α : Type} (d : Declared α) : Rank × Int := (d.rank, d.version)

/-- The capabilities of a payload that cover a key, in the order of declaration. -/
def Payload.covering (key : Key) : Payload → List (Rank × Int)
  | .conversion cs => (cs.filter fun d => d.covers.covers key).map Declared.standing
  | .generation cs => (cs.filter fun d => d.covers.covers key).map Declared.standing
  | .detail cs => (cs.filter fun d => (d.covers.map Key.level).contains key).map Declared.standing
  | .hdr cs => (cs.filter fun d => (d.covers.map Key.format).contains key).map Declared.standing
  | .contrast cs =>
    (cs.filter fun d => (d.covers.map Key.contrast).contains key).map Declared.standing
  | .refresh cs => (cs.filter fun _ => key = .refresh).map Declared.standing

theorem PixelFormat.mem_all (f : PixelFormat) : f ∈ PixelFormat.all := by
  cases f <;> decide

/-- A conversion capability covers the pairs of formats that it lists, between its two spaces. -/
theorem ConversionCoverage.mem_keys {c : ConversionCoverage} {k : ConversionKey} :
    k ∈ c.keys ↔ k.inputSpace = c.inputSpace ∧ k.outputSpace = c.outputSpace ∧
      k.outputFormat ∈ c.outputs k.inputFormat := by
  simp only [keys, List.mem_flatMap, List.mem_map]
  constructor
  · rintro ⟨f, -, g, hg, rfl⟩
    exact ⟨rfl, rfl, hg⟩
  · rintro ⟨h₁, h₂, hg⟩
    exact ⟨k.inputFormat, PixelFormat.mem_all _, k.outputFormat, hg, by rw [← h₁, ← h₂]⟩

theorem ConversionCoverage.covers_iff {c : ConversionCoverage} {key : Key} :
    c.covers key = true ↔ key ∈ c.keys.map Key.conversion := by
  cases key <;> simp [covers, mem_keys, and_assoc]

theorem GenerationCoverage.covers_iff {c : GenerationCoverage} {key : Key} :
    c.covers key = true ↔ key ∈ c.keys.map Key.generation := by
  cases key with
  | generation k =>
    simp only [covers, keys, Bool.and_eq_true, decide_eq_true_eq, List.contains_iff_mem,
      List.map_map, List.mem_map, Function.comp_apply, Key.generation.injEq]
    constructor
    · rintro ⟨⟨h₁, hf⟩, h₂⟩
      exact ⟨k.format, hf, by rw [← h₁, ← h₂]⟩
    · rintro ⟨f, hf, rfl⟩
      exact ⟨⟨rfl, hf⟩, rfl⟩
  | _ => simp [covers]

/-! ## Candidates -/

theorem CandidateMap.candidates_ofList (claims : List (Key × Candidate)) (key : Key) :
    (CandidateMap.ofList claims).candidates key =
      (claims.filter fun c => c.1 = key).map Prod.snd := by
  have step : ∀ m : CandidateMap Key,
      (claims.foldl (fun m c => m.insert c.1 c.2) m).candidates key =
        m.candidates key ++ (claims.filter fun c => c.1 = key).map Prod.snd := by
    induction claims with
    | nil => simp
    | cons c rest ih =>
      intro m
      rw [List.foldl_cons, ih, candidates_insert]
      by_cases h : key = c.1
      · simp [h]
      · simp [h, Ne.symm h]
  exact (step _).trans (by simp [candidates, SortedMap.find?_empty])

/-- A key that is listed more than once counts once in a search. -/
theorem find?_declared {α β : Type} {keys : α → List Key} {covers : α → Bool} {key : Key}
    (h : ∀ a, covers a = true ↔ key ∈ keys a) (make : Rank × Int → β) (p : β → Bool)
    (cs : List (Declared α)) :
    ((cs.map (Declared.withKeys keys)).flatMap fun d =>
        (d.covers.filter fun k => k = key).map fun _ => make (d.rank, d.version)).find? p =
      (((cs.filter fun d => covers d.covers).map Declared.standing).map make).find? p := by
  -- A key that is listed several times gives as many equal claims, and a search stops at the first.
  have same : ∀ (l : List Key) (b : β), l ≠ [] → (l.map fun _ => b).find? p = [b].find? p := by
    intro l b hl
    induction l with
    | nil => exact absurd rfl hl
    | cons k rest ih =>
      rw [List.map_cons, List.find?_cons, List.find?_singleton]
      cases hb : p b with
      | true => rfl
      | false => exact List.find?_eq_none.2 (by simp [hb])
  induction cs with
  | nil => rfl
  | cons d rest ih =>
    rw [List.map_cons, List.flatMap_cons, List.find?_append, ih]
    by_cases hd : covers d.covers = true
    · have hne : (keys d.covers).filter (fun k => k = key) ≠ [] := by
        intro e
        simpa using List.filter_eq_nil_iff.1 e key ((h _).1 hd)
      rw [List.filter_cons_of_pos (p := fun d : Declared α => covers d.covers) hd, List.map_cons,
        List.map_cons, ← List.singleton_append, List.find?_append]
      exact congrArg (Option.or · _) (same _ _ hne)
    · have he : (keys d.covers).filter (fun k => k = key) = [] :=
        List.filter_eq_nil_iff.2 fun k hk e => hd ((h _).2 (of_decide_eq_true e ▸ hk))
      rw [List.filter_cons_of_neg (p := fun d : Declared α => covers d.covers) hd]
      show Option.or ((List.map _ ((keys d.covers).filter fun k => k = key)).find? p) _ = _
      rw [he]
      rfl

/-- The claims of a payload on a key are its capabilities that cover the key, to a search. -/
theorem Payload.find?_claims {β : Type} (payload : Payload) (key : Key) (make : Rank × Int → β)
    (p : β → Bool) :
    (payload.declarations.flatMap fun d =>
        (d.covers.filter fun k => k = key).map fun _ => make (d.rank, d.version)).find? p =
      ((payload.covering key).map make).find? p := by
  have contains {α : Type} (f : α → Key) (l : List α) :
      (l.map f).contains key = true ↔ key ∈ l.map f := List.contains_iff_mem
  cases payload with
  | conversion cs => exact find?_declared (fun _ => ConversionCoverage.covers_iff) make p cs
  | generation cs => exact find?_declared (fun _ => GenerationCoverage.covers_iff) make p cs
  | detail cs => exact find?_declared (contains _) make p cs
  | hdr cs => exact find?_declared (contains _) make p cs
  | contrast cs => exact find?_declared (contains _) make p cs
  | refresh cs =>
    have only : ∀ _ : Unit, decide (key = .refresh) = true ↔ key ∈ [Key.refresh] := by simp
    exact find?_declared only make p cs

/-! ## Claimants -/

namespace Query

/-- The extension is of the type asked for, and its capabilities have the shape of that type. -/
def accepts (q : Query) (d : Descriptor) : Bool :=
  d.info.type = q.type && d.payload.shape = q.type.shape

/-- The capabilities that cover the key of the query, with their extensions: those of accepted
extensions in the order of the list, and of one extension in the order of declaration. -/
def claimants (q : Query) (list : List Descriptor) : List Selection :=
  list.flatMap fun d =>
    if q.accepts d then
      (d.payload.covering q.key).map fun s => ⟨d.info, s.1, s.2, d.creator⟩
    else []

/-- The same capabilities, each with its extension and the place of that. -/
def placed (q : Query) (list : List Descriptor) : List ((Descriptor × Nat) × Rank × Int) :=
  list.zipIdx.flatMap fun e =>
    if q.accepts e.1 then (e.1.payload.covering q.key).map fun s => (e, s) else []

/-- The claim of a capability. -/
def claim (x : (Descriptor × Nat) × Rank × Int) : Candidate := ⟨x.2.1, x.2.2, x.1.2⟩

/-- The selection of a capability. -/
def chosen (x : (Descriptor × Nat) × Rank × Int) : Selection :=
  ⟨x.1.1.info, x.2.1, x.2.2, x.1.1.creator⟩

/-- Places do not matter to the sequence of claimants. -/
theorem claimants_eq (q : Query) (list : List Descriptor) :
    q.claimants list = (q.placed list).map chosen := by
  rw [placed, List.map_flatMap, claimants]
  conv_lhs => rw [← List.zipIdx_map_fst 0 list, List.flatMap_map]
  refine congrArg (list.zipIdx.flatMap ·) (funext fun e => ?_)
  split
  · rw [List.map_map]; rfl
  · rfl

/-- What is claimed at a place comes from the extension there, which has the right shape. -/
theorem mem_placed {q : Query} {list : List Descriptor} {x : (Descriptor × Nat) × Rank × Int}
    (h : x ∈ q.placed list) :
    list[x.1.2]? = some x.1.1 ∧ x.1.1.payload.shape = q.type.shape := by
  obtain ⟨e, he, hx⟩ := List.mem_flatMap.1 h
  split at hx
  · rename_i ha
    obtain ⟨s, -, rfl⟩ := List.mem_map.1 hx
    rw [accepts, Bool.and_eq_true, decide_eq_true_eq, decide_eq_true_eq] at ha
    exact ⟨List.mem_zipIdx_iff_getElem?.1 he, ha.2⟩
  · cases hx

/-- The map of candidates keeps the claimants of a key in their order, to a search. -/
theorem find?_candidates (q : Query) (list : List Descriptor) (p : Candidate → Bool) :
    ((candidateMap q.type q.type.shape list).candidates q.key).find? p =
      ((q.placed list).map claim).find? p := by
  rw [candidateMap, CandidateMap.candidates_ofList, claims, List.filter_flatMap,
    List.map_flatMap, placed, List.map_flatMap, List.find?_flatMap, List.find?_flatMap]
  refine congrArg (list.zipIdx.findSome? ·) (funext fun e => ?_)
  have ha : q.accepts e.1 = true ↔ e.1.info.type = q.type ∧ e.1.payload.shape = q.type.shape := by
    simp [accepts]
  by_cases h : q.accepts e.1 = true
  · rw [if_pos h, if_pos (ha.1 h), List.map_map]
    rw [Descriptor.claims, List.filter_flatMap, List.map_flatMap]
    simp only [List.filter_map, List.map_map, Function.comp_def]
    exact Payload.find?_claims e.1.payload q.key (fun s => ⟨s.1, s.2, e.2⟩) p
  · rw [if_neg h, if_neg fun h' => h (ha.2 h')]
    rfl

/-! ## The winner -/

/-- The first claimant of high rank, or else the first one. -/
def preferred? (l : List Selection) : Option Selection :=
  (l.find? fun s => s.rank = .high).or l.head?

/-- The winning capability, with its place. -/
def leader? (l : List ((Descriptor × Nat) × Rank × Int)) :
    Option ((Descriptor × Nat) × Rank × Int) :=
  (l.find? fun x => x.2.1 = .high).or l.head?

theorem mem_of_leader? {l : List ((Descriptor × Nat) × Rank × Int)}
    {x : (Descriptor × Nat) × Rank × Int} (h : leader? l = some x) : x ∈ l := by
  rcases Option.or_eq_some_iff.1 h with h | ⟨-, h⟩
  · exact List.mem_of_find?_eq_some h
  · exact List.mem_of_head? h

theorem preferred?_map (l : List ((Descriptor × Nat) × Rank × Int)) :
    preferred? (l.map chosen) = (leader? l).map chosen := by
  rw [preferred?, leader?, List.find?_map, List.head?_map, Option.map_or]
  rfl

theorem winner?_map (l : List ((Descriptor × Nat) × Rank × Int)) :
    Candidate.winner? (l.map claim) = (leader? l).map claim := by
  rw [Candidate.winner?, leader?, List.find?_map, List.head?_map, Option.map_or]
  rfl

/-- The winner of a list depends on its searches only. -/
theorem winner?_congr {cs cs' : List Candidate} (h : ∀ p, cs.find? p = cs'.find? p) :
    Candidate.winner? cs = Candidate.winner? cs' := by
  have head : ∀ l : List Candidate, l.head? = l.find? fun _ => true := by
    intro l
    cases l <;> rfl
  rw [Candidate.winner?, Candidate.winner?, head, head, h, h]

theorem candidate?_eq {q : Query} (hq : ∀ level, q ≠ .detail level) (list : List Descriptor) :
    q.candidate? list = (leader? (q.placed list)).map claim := by
  have hmap : q.candidate? list = (candidateMap q.type q.type.shape list).select q.key := by
    cases q with
    | detail level => exact absurd rfl (hq level)
    | _ => rfl
  rw [hmap, CandidateMap.select, winner?_congr (find?_candidates q list), winner?_map]

/-- A query whose map keeps all candidates is answered with the preferred claimant. -/
theorem select?_eq_preferred {q : Query} (hq : ∀ level, q ≠ .detail level)
    (list : List Descriptor) : q.select? list = preferred? (q.claimants list) := by
  rw [claimants_eq, preferred?_map, select?, candidate?_eq hq]
  cases hl : leader? (q.placed list) with
  | none => rfl
  | some x =>
    obtain ⟨hget, hshape⟩ := mem_placed (mem_of_leader? hl)
    show (list[x.1.2]?.bind fun d => if d.payload.shape = q.type.shape then _ else _) = _
    rw [hget]
    exact if_pos hshape

/-! ## Every query -/

/-- The claims on the key of a query are those of its claimants. -/
theorem mem_claims {q : Query} {list : List Descriptor} {c : Candidate} :
    c ∈ (((ImageDispatch.claims q.type q.type.shape list).filter fun c => c.1 = q.key).map
        Prod.snd) ↔
      c ∈ (q.placed list).map claim := by
  have h := find?_candidates q list fun c' => c' = c
  rw [candidateMap, CandidateMap.candidates_ofList] at h
  have mem : ∀ l : List Candidate, c ∈ l ↔ (l.find? fun c' => c' = c).isSome := by
    intro l
    rw [List.find?_isSome]
    simp
  rw [mem, mem, h]

/-- Whatever kind of map a query has, it is answered exactly if there is a claimant. -/
theorem select?_eq_none_iff (q : Query) (list : List Descriptor) :
    q.select? list = none ↔ q.claimants list = [] := by
  by_cases hq : ∀ level, q ≠ .detail level
  · rw [select?_eq_preferred hq]
    cases q.claimants list with
    | nil => simp [preferred?]
    | cons s rest => simp [preferred?]
  · push Not at hq
    obtain ⟨level, rfl⟩ := hq
    have hcandidate : (detail level).candidate? list = _ := LevelMap.select_ofList _ _
    rw [claimants_eq, List.map_eq_nil_iff, select?]
    cases hc : (detail level).candidate? list with
    | none =>
      refine iff_of_true rfl (List.eq_nil_iff_forall_not_mem.2 fun x hx => ?_)
      have := mem_claims.2 (List.mem_map_of_mem hx)
      rw [Candidate.holder?_eq_none_iff.1 (hcandidate.symm.trans hc)] at this
      cases this
    | some c =>
      obtain ⟨x, hx, rfl⟩ :=
        List.mem_map.1 (mem_claims.1 (Candidate.mem_of_holder? (hcandidate.symm.trans hc)))
      obtain ⟨hget, hshape⟩ := mem_placed hx
      refine iff_of_false ?_ (List.ne_nil_of_mem hx)
      show ¬(list[x.1.2]?.bind fun d =>
        if d.payload.shape = (detail level).type.shape then _ else _) = _
      rw [hget]
      simp [hshape]

end Query

end ImageDispatch
