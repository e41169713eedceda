import ImageDispatch.Proofs.Selection.Find

/-!
# Detail levels

A level of detail goes to the last extension of high rank that claims it, where the other keys go to
the first one.

* `levelClaims`: the claims on a level, read off the extensions without maps and keys.
* `Query.select?_detail`: the extension that holds a level is the one at the place of the winning
  claim.
* `Host.level_spec`: what a query for a level answers, and what a level map holds.
-/

namespace ImageDispatch

/-- The claims of an extension at a place of the list on a level: one for each time that one of its
capabilities lists the level. An extension of another type, or with other capabilities than its type
says, claims no level. -/
def Descriptor.levelClaims (level : DetailLevel) (d : Descriptor) (index : Nat) : List Candidate :=
  match d.payload with
  | .detail capabilities =>
    if d.info.type = .detailEnhancer then
      capabilities.flatMap fun c =>
        (c.covers.filter fun l => l = level).map fun _ => ⟨c.rank, c.version, index⟩
    else []
  | _ => []

/-- The claims on a level: by extension in the order of the list, by capability in the order of
declaration, and in the order in which the capability lists its levels. -/
def levelClaims (level : DetailLevel) (list : List Descriptor) : List Candidate :=
  list.zipIdx.flatMap fun e => e.1.levelClaims level e.2

variable {level : DetailLevel} {list : List Descriptor}

theorem Descriptor.levelClaims_of_detail {d : Descriptor}
    {capabilities : List (Declared (List DetailLevel))} (hpayload : d.payload = .detail capabilities)
    (index : Nat) : d.levelClaims level index =
      if d.info.type = .detailEnhancer then
        capabilities.flatMap fun c =>
          (c.covers.filter fun l => l = level).map fun _ => ⟨c.rank, c.version, index⟩
      else [] := by
  unfold levelClaims
  rw [hpayload]

theorem Descriptor.levelClaims_of_other {d : Descriptor} (hshape : d.payload.shape ≠ .detail)
    (index : Nat) : d.levelClaims level index = [] := by
  unfold levelClaims
  cases hpayload : d.payload with
  | detail => exact absurd (congrArg Payload.shape hpayload) hshape
  | _ => rfl

/-- Who claims a level is an extension for detail, at the place that it claims from. -/
theorem mem_levelClaims {c : Candidate} (h : c ∈ levelClaims level list) :
    ∃ d, list[c.index]? = some d ∧ d.payload.shape = .detail := by
  obtain ⟨e, he, hc⟩ := List.mem_flatMap.1 h
  by_cases hshape : e.1.payload.shape = .detail
  · cases hpayload : e.1.payload with
    | detail capabilities =>
      rw [e.1.levelClaims_of_detail hpayload] at hc
      split at hc
      · obtain ⟨declared, -, hc⟩ := List.mem_flatMap.1 hc
        obtain ⟨_, -, rfl⟩ := List.mem_map.1 hc
        exact ⟨e.1, List.mem_zipIdx_iff_getElem?.1 he, hshape⟩
      · cases hc
    | _ => rw [hpayload] at hshape; cases hshape
  · rw [e.1.levelClaims_of_other hshape] at hc
    cases hc

/-- The claims on the key of a level are the claims on the level. -/
theorem claims_level (level : DetailLevel) (list : List Descriptor) :
    ((claims .detailEnhancer .detail list).filter fun c => c.1 = .level level).map Prod.snd =
      levelClaims level list := by
  rw [claims, levelClaims, List.filter_flatMap, List.map_flatMap]
  refine congrArg (list.zipIdx.flatMap ·) (funext fun e => ?_)
  by_cases hshape : e.1.payload.shape = .detail
  · cases hpayload : e.1.payload with
    | detail capabilities =>
      rw [e.1.levelClaims_of_detail hpayload]
      by_cases htype : e.1.info.type = .detailEnhancer
      · rw [if_pos ⟨htype, rfl⟩, if_pos htype, Descriptor.claims, hpayload,
          Payload.declarations, List.flatMap_map, List.filter_flatMap, List.map_flatMap]
        refine congrArg (capabilities.flatMap ·) (funext fun c => ?_)
        simp [Declared.withKeys, List.filter_map, Function.comp_def]
      · rw [if_neg fun h => htype h.1, if_neg htype]
        rfl
    | _ => rw [hpayload] at hshape; cases hshape
  · rw [if_neg fun h => hshape h.2, e.1.levelClaims_of_other hshape]
    rfl

namespace Query

/-- A level is held by the winner of the claims on it. -/
theorem candidate?_detail (level : DetailLevel) (list : List Descriptor) :
    (detail level).candidate? list = Candidate.holder? (levelClaims level list) := by
  have hselect : (detail level).candidate? list = _ := LevelMap.select_ofList _ _
  rw [hselect]
  exact congrArg Candidate.holder? (claims_level level list)

/-- A query for a level answers with the extension at the place of the winning claim. -/
theorem select?_detail {c : Candidate} (h : Candidate.holder? (levelClaims level list) = some c) :
    ∃ d, list[c.index]? = some d ∧
      (detail level).select? list = some ⟨d.info, c.rank, c.version, d.creator⟩ := by
  obtain ⟨d, hget, hshape⟩ := mem_levelClaims (Candidate.mem_of_holder? h)
  refine ⟨d, hget, ?_⟩
  unfold select?
  rw [candidate?_detail, h]
  show (list[c.index]?.bind fun d =>
    if d.payload.shape = (detail level).type.shape then _ else _) = _
  rw [hget]
  exact if_pos hshape

theorem select?_detail_eq_none_iff :
    (detail level).select? list = none ↔ levelClaims level list = [] := by
  rw [← Candidate.holder?_eq_none_iff]
  cases h : Candidate.holder? (levelClaims level list) with
  | none =>
    refine iff_of_true ?_ rfl
    unfold select?
    rw [candidate?_detail, h]
    rfl
  | some c =>
    obtain ⟨d, -, hselect⟩ := select?_detail h
    simp [hselect]

end Query

namespace Host

variable {σ : Type}

/-- A query for a detail level goes through the extensions that are registered now. It answers with
the extension that made the last claim of high rank on the level, or else with the one that made the
first claim, and with none only if nobody claims the level. The map beneath has that rule for keys of
any kind: its keys ascend, and each is held by the last of high rank among its own claims, or else by
the first of them, whatever is claimed on other keys. -/
theorem level_spec (host : Host σ) (level : DetailLevel) :
    (∀ list, ((Query.detail level).select? list = none ↔ levelClaims level list = []) ∧
      ∀ first rest, levelClaims level list = first :: rest →
        let winner := ((first :: rest).reverse.find? fun c => c.rank = .high).getD first
        ∃ d, list[winner.index]? = some d ∧ (Query.detail level).select? list =
          some ⟨d.info, winner.rank, winner.version, d.creator⟩) ∧
    (∀ w, (host.find (.detail level) w).1 =
      (Query.detail level).select? (host.collected (.detail level) w)) ∧
    ∀ (κ : Type) [Placed κ] (claims : List (κ × Candidate)),
      (LevelMap.ofList claims).keys.Pairwise (fun k l => Placed.place k < Placed.place l) ∧
      (∀ k c, (k, c) ∈ (LevelMap.ofList claims).entries ↔
        Candidate.holder? ((claims.filter fun claim => claim.1 = k).map Prod.snd) = some c) ∧
      ∀ k, (LevelMap.ofList claims).select k =
        Candidate.holder? ((claims.filter fun claim => claim.1 = k).map Prod.snd) := by
  refine ⟨fun list => ⟨Query.select?_detail_eq_none_iff, fun first rest hclaims => ?winner⟩,
    host.find_eq (.detail level), fun κ _ claims => ⟨?ascending,
    fun k c => LevelMap.mem_entries_ofList, LevelMap.select_ofList claims⟩⟩
  case winner =>
    intro winner
    have hholder : Candidate.holder? (levelClaims level list) = some winner := by
      rw [hclaims, Candidate.holder?, List.head?_cons]
      show _ = some (Option.getD _ _)
      cases (first :: rest).reverse.find? fun c => c.rank = .high <;> rfl
    exact Query.select?_detail hholder
  case ascending =>
    exact List.pairwise_map.2 (LevelMap.ofList claims).sorted

/-- The last claim of high rank wins, between an earlier one of high rank and a later one that is
not. -/
example : (Query.detail .low).select?
    [⟨⟨.detailEnhancer, "plain", "1"⟩,
        .detail [⟨[.low], .default, 1⟩, ⟨[.low, .high], .high, 2⟩], ⟨0⟩⟩,
      ⟨⟨.detailEnhancer, "better", "2"⟩, .detail [⟨[.high, .low], .high, 3⟩], ⟨1⟩⟩,
      ⟨⟨.detailEnhancer, "late", "3"⟩, .detail [⟨[.low], .default, 4⟩], ⟨2⟩⟩] =
    some ⟨⟨.detailEnhancer, "better", "2"⟩, .high, 3, ⟨1⟩⟩ := rfl

end Host

end ImageDispatch
