import Mathlib.Data.List.Chain
import Mathlib.Data.List.Perm.Subperm
import ImageDispatch.Telemetry.Event

/-!
# Journals in which every event is in its place

A journal has the last event first. What may come next depends on what came before.

* `LibraryLog`: the numbers of users of the vendor library, with the calls of its source at the
  ends. `LibraryLog.alternates`, `LibraryLog.closed_at_zero`: what follows for the source.
* `Event.Due`: what has to have happened before an event. `Regular`: this holds of every event of
  a journal. `Regular.split` is the same for any place in it.
* `foundedIds`, `dissolvedIds`, `connectedIds`, `disconnectedIds`: the façades that came and went.
  In a regular journal each does so once (`Regular.nodup_foundedIds` and the others).
-/

namespace ImageDispatch

/-! ## The users of the library -/

/-- The event is a call of the source of dynamic extensions. -/
def Event.isSourceCall : Event → Bool
  | .opened _ | .closed => true
  | _ => false

/-- The event is a call of the source to open. -/
def Event.isOpening : Event → Bool
  | .opened _ => true
  | _ => false

/-- The event is a call of the source, or a new number of users. -/
def Event.isLibrary : Event → Bool
  | .opened _ | .closed | .gauge .vendorInstances _ => true
  | _ => false

/-- The numbers of users that a journal tells, up to the given one. The source is called to open
from 0 to 1, whether it succeeds or not, and to close from 1 to 0, and at no other time. -/
inductive LibraryLog : Nat → List Event → Prop
  | start : LibraryLog 0 []
  | first {t : List Event} (h : LibraryLog 0 t) (ok : Bool) :
    LibraryLog 1 (.gauge .vendorInstances 1 :: .opened ok :: t)
  | more {n : Nat} {t : List Event} (h : LibraryLog (n + 1) t) :
    LibraryLog (n + 2) (.gauge .vendorInstances (n + 2) :: t)
  | fewer {n : Nat} {t : List Event} (h : LibraryLog (n + 2) t) :
    LibraryLog (n + 1) (.gauge .vendorInstances (n + 1) :: t)
  | last {t : List Event} (h : LibraryLog 1 t) :
    LibraryLog 0 (.gauge .vendorInstances 0 :: .closed :: t)

/-- The source is open after these events. It is closed at first, a call to open it can fail, and
to close it cannot. -/
def sourceIsOpen : List Event → Bool
  | [] => false
  | .opened ok :: t => ok || sourceIsOpen t
  | .closed :: _ => false
  | _ :: t => sourceIsOpen t

/-- Where nobody uses the library its source is closed. -/
theorem LibraryLog.closed_at_zero {t : List Event} (h : LibraryLog 0 t) :
    sourceIsOpen t = false := by
  cases h <;> rfl

/-- Whenever the number of users is told to be 0 the source is closed. -/
theorem LibraryLog.closed_at_gauge {n : Nat} {t : List Event} (h : LibraryLog n t) :
    ∀ {later earlier}, t = later ++ .gauge .vendorInstances 0 :: earlier →
      sourceIsOpen earlier = false := by
  -- The event is the last one, or the one before, or it was there when the log was shorter.
  induction h with
  | start => intro later earlier he; simp at he
  | first h ok ih =>
    intro later earlier he
    rcases later with _ | ⟨_, _ | ⟨_, later⟩⟩ <;> simp at he
    exact ih he.2.2
  | more h ih =>
    intro later earlier he
    rcases later with _ | ⟨_, later⟩ <;> simp at he
    exact ih he.2
  | fewer h ih =>
    intro later earlier he
    rcases later with _ | ⟨_, later⟩ <;> simp at he
    exact ih he.2
  | last h ih =>
    intro later earlier he
    rcases later with _ | ⟨_, _ | ⟨_, later⟩⟩ <;> simp at he
    · rw [← he]; rfl
    · exact ih he.2.2

/-- The last call of the source was to open it as long as there are users. -/
theorem LibraryLog.head?_calls {n : Nat} {t : List Event} (h : LibraryLog n t) :
    ∀ e ∈ (t.filter Event.isSourceCall).head?, e.isOpening = decide (0 < n) := by
  induction h with
  | start => simp
  | first h ok => simp [Event.isSourceCall, Event.isOpening]
  | more h ih => simpa [Event.isSourceCall] using ih
  | fewer h ih => simpa [Event.isSourceCall] using ih
  | last h => simp [Event.isSourceCall, Event.isOpening]

/-- The calls to open and to close alternate. -/
theorem LibraryLog.alternates {n : Nat} {t : List Event} (h : LibraryLog n t) :
    (t.filter Event.isSourceCall).IsChain fun e e' => e.isOpening ≠ e'.isOpening := by
  induction h with
  | start => simp
  | first h ok ih =>
    rw [List.filter_cons_of_neg (by simp [Event.isSourceCall]),
      List.filter_cons_of_pos (by simp [Event.isSourceCall]), List.isChain_cons]
    exact ⟨fun e he => by rw [h.head?_calls e he]; simp [Event.isOpening], ih⟩
  | more h ih => simpa [Event.isSourceCall] using ih
  | fewer h ih => simpa [Event.isSourceCall] using ih
  | last h ih =>
    rw [List.filter_cons_of_neg (by simp [Event.isSourceCall]),
      List.filter_cons_of_pos (by simp [Event.isSourceCall]), List.isChain_cons]
    exact ⟨fun e he => by rw [h.head?_calls e he]; simp [Event.isOpening], ih⟩

/-- The source is open after the events of a log of the library as after all events. -/
theorem sourceIsOpen_filter (t : List Event) :
    sourceIsOpen (t.filter Event.isLibrary) = sourceIsOpen t := by
  induction t with
  | nil => rfl
  | cons e t ih =>
    cases e with
    | opened ok => rw [List.filter_cons_of_pos rfl, sourceIsOpen, sourceIsOpen, ih]
    | closed => rw [List.filter_cons_of_pos rfl, sourceIsOpen, sourceIsOpen]
    | gauge g n =>
      cases g with
      | vendorInstances => rw [List.filter_cons_of_pos rfl]; exact ih
      | slotsUsed => rw [List.filter_cons_of_neg (by simp [Event.isLibrary])]; exact ih
    | _ => rw [List.filter_cons_of_neg (by simp [Event.isLibrary])]; exact ih

theorem filter_isSourceCall (t : List Event) :
    (t.filter Event.isLibrary).filter Event.isSourceCall = t.filter Event.isSourceCall := by
  rw [List.filter_filter]
  refine List.filter_congr fun e _ => ?_
  cases e with
  | gauge g n => cases g <;> rfl
  | _ => rfl

/-! ## The façades -/

/-- The release of an object has ended. -/
def Released (o : ObjectId) (t : List Event) : Prop := ∃ ok, .ended o .deinit ok ∈ t

/-- Every implementation that a façade created has been released. -/
def Emptied (f : FacadeId) (t : List Event) : Prop := ∀ o, .adopted f o ∈ t → Released o t

/-- A façade of a kind was made, and has not begun to go away. -/
structure Standing (f : FacadeId) (kind : FacadeKind) (t : List Event) : Prop where
  founded : .founded f kind ∈ t
  connected : .disconnected f ∉ t
  leased : .dissolved f ∉ t

/-- What has to have happened before an event. The bootstrap service is told of a façade before
the façade is there, and told again when its implementations have been released, before it gives
its lease back. When the source is asked to close, the implementations of all façades have been
released. -/
def Event.Due (earlier : List Event) : Event → Prop
  | .connected f => .connected f ∉ earlier ∧ ∀ kind, .founded f kind ∉ earlier
  | .founded f kind =>
    (∀ kind, .founded f kind ∉ earlier) ∧ (.connected f ∈ earlier ↔ kind.usesService = true)
  | .sought f => ∃ kind, Standing f kind earlier
  | .adopted f o => (∃ kind, Standing f kind earlier) ∧ ∀ f, .adopted f o ∉ earlier
  | .disconnected f =>
    (∃ kind, Standing f kind earlier ∧ kind.usesService = true) ∧ Emptied f earlier
  | .dissolved f =>
    (∃ kind, .founded f kind ∈ earlier ∧ (.disconnected f ∈ earlier ↔ kind.usesService = true)) ∧
      .dissolved f ∉ earlier ∧ Emptied f earlier
  | .closed =>
    (∀ f kind, .founded f kind ∈ earlier → .dissolved f ∈ earlier) ∧ ∀ f, Emptied f earlier
  | _ => True

/-- Every event of the journal is in its place. -/
def Regular : List Event → Prop
  | [] => True
  | e :: t => e.Due t ∧ Regular t

namespace Regular

variable {t : List Event} {f : FacadeId} {o : ObjectId}

/-- An event in a regular journal was due when it came. -/
theorem split {later earlier : List Event} {e : Event} (h : Regular (later ++ e :: earlier)) :
    e.Due earlier ∧ Regular earlier := by
  induction later with
  | nil => exact h
  | cons _ _ ih => exact ih h.2

theorem of_mem {e : Event} (h : Regular t) (he : e ∈ t) :
    ∃ earlier, e.Due earlier ∧ Regular earlier ∧ (∀ x ∈ earlier, x ∈ t) := by
  obtain ⟨later, earlier, rfl⟩ := List.append_of_mem he
  exact ⟨earlier, h.split.1, h.split.2, fun x hx => by simp [hx]⟩

/-- Of two events in a regular journal one was there when the other was due. -/
theorem of_mem_of_mem {e e' : Event} (h : Regular t) (he : e ∈ t) (he' : e' ∈ t) (hne : e ≠ e') :
    (∃ earlier, e.Due earlier ∧ e' ∈ earlier) ∨ ∃ earlier, e'.Due earlier ∧ e ∈ earlier := by
  induction t with
  | nil => cases he
  | cons x t ih =>
    rcases List.mem_cons.1 he with rfl | he₁ <;> rcases List.mem_cons.1 he' with rfl | he₁'
    · exact absurd rfl hne
    · exact .inl ⟨t, h.1, he₁'⟩
    · exact .inr ⟨t, h.1, he₁⟩
    · exact ih h.2 he₁ he₁'

theorem founded_of_adopted (h : Regular t) (ha : .adopted f o ∈ t) :
    ∃ kind, .founded f kind ∈ t := by
  obtain ⟨earlier, hdue, -, hsub⟩ := h.of_mem ha
  obtain ⟨⟨kind, hs⟩, -⟩ := hdue
  exact ⟨kind, hsub _ hs.founded⟩

/-- An implementation was created by one façade. -/
theorem adopted_inj {f' : FacadeId} (h : Regular t) (ha : .adopted f o ∈ t)
    (ha' : .adopted f' o ∈ t) : f = f' := by
  by_contra hne
  rcases h.of_mem_of_mem ha ha' (by simpa using hne) with ⟨earlier, hdue, hm⟩ | ⟨earlier, hdue, hm⟩
  · exact hdue.2 _ hm
  · exact hdue.2 _ hm

theorem kind_inj {kind kind' : FacadeKind} (h : Regular t) (hf : .founded f kind ∈ t)
    (hf' : .founded f kind' ∈ t) : kind = kind' := by
  by_contra hne
  rcases h.of_mem_of_mem hf hf' (by simpa using hne) with ⟨earlier, hdue, hm⟩ | ⟨earlier, hdue, hm⟩
  · exact hdue.1 _ hm
  · exact hdue.1 _ hm

/-- What a façade that gave its lease back had created has been released. -/
theorem emptied (h : Regular t) (hd : .dissolved f ∈ t) : Emptied f t := by
  intro o ha
  rcases h.of_mem_of_mem hd ha (by simp) with ⟨earlier, -, -⟩ | ⟨earlier, hdue, hm⟩
  · obtain ⟨later, earlier, rfl⟩ := List.append_of_mem hd
    have hdue : Event.Due earlier (.dissolved f) := h.split.1
    rcases List.mem_append.1 ha with hl | hl
    -- Nothing is created for a façade after it gave its lease back.
    · obtain ⟨l₁, l₂, rfl⟩ := List.append_of_mem hl
      rw [List.append_assoc, List.cons_append] at h
      obtain ⟨⟨kind, hs⟩, -⟩ : Event.Due _ (.adopted f o) := h.split.1
      exact absurd (by simp) hs.leased
    · obtain ⟨ok, hok⟩ := hdue.2.2 o (by simpa using hl)
      exact ⟨ok, by simp [hok]⟩
  · obtain ⟨⟨kind, hs⟩, -⟩ := hdue
    exact absurd hm hs.leased

/-- The bootstrap service was told of a façade if it is told of its kind. -/
theorem connected_iff {kind : FacadeKind} (h : Regular t) (hf : .founded f kind ∈ t) :
    .connected f ∈ t ↔ kind.usesService = true := by
  obtain ⟨later, earlier, rfl⟩ := List.append_of_mem hf
  obtain ⟨-, hdue⟩ : Event.Due earlier (.founded f kind) := h.split.1
  rw [← hdue]
  refine ⟨fun hc => ?_, fun hc => by simp [hc]⟩
  rcases List.mem_append.1 hc with hc | hc
  · obtain ⟨l₁, l₂, rfl⟩ := List.append_of_mem hc
    rw [List.append_assoc, List.cons_append] at h
    have hdue' : Event.Due _ (.connected f) := h.split.1
    exact absurd (by simp) (hdue'.2 kind)
  · simpa using hc

/-- A façade that gave its lease back had taken leave of the bootstrap service, if it is told of
its kind. -/
theorem disconnected_iff {kind : FacadeKind} (h : Regular t) (hf : .founded f kind ∈ t)
    (hd : .dissolved f ∈ t) : .disconnected f ∈ t ↔ kind.usesService = true := by
  obtain ⟨later, earlier, rfl⟩ := List.append_of_mem hd
  obtain ⟨⟨kind', hf', hdue⟩, -⟩ : Event.Due earlier (.dissolved f) := h.split.1
  cases h.kind_inj hf (List.mem_append_right later (List.mem_cons_of_mem _ hf'))
  rw [← hdue]
  refine ⟨fun hc => ?_, fun hc => by simp [hc]⟩
  rcases List.mem_append.1 hc with hc | hc
  · obtain ⟨l₁, l₂, rfl⟩ := List.append_of_mem hc
    rw [List.append_assoc, List.cons_append] at h
    obtain ⟨⟨kind', hs, -⟩, -⟩ : Event.Due _ (.disconnected f) := h.split.1
    exact absurd (by simp) hs.leased
  · simpa using hc

end Regular

/-! ## Counting them -/

/-- The façade that was made. -/
def Event.founded? : Event → Option FacadeId
  | .founded f _ => some f
  | _ => none

/-- The façade that gave its lease back. -/
def Event.dissolved? : Event → Option FacadeId
  | .dissolved f => some f
  | _ => none

/-- The façade of which the bootstrap service was told. -/
def Event.connected? : Event → Option FacadeId
  | .connected f => some f
  | _ => none

/-- The façade that took leave of the bootstrap service. -/
def Event.disconnected? : Event → Option FacadeId
  | .disconnected f => some f
  | _ => none

/-- The façades that were made. -/
def foundedIds (t : List Event) : List FacadeId := t.filterMap Event.founded?

/-- The façades that gave their lease back. -/
def dissolvedIds (t : List Event) : List FacadeId := t.filterMap Event.dissolved?

/-- The façades of which the bootstrap service was told. -/
def connectedIds (t : List Event) : List FacadeId := t.filterMap Event.connected?

/-- The façades that took leave of the bootstrap service. -/
def disconnectedIds (t : List Event) : List FacadeId := t.filterMap Event.disconnected?

section Ids

variable {t : List Event} {f : FacadeId}

theorem mem_foundedIds : f ∈ foundedIds t ↔ ∃ kind, .founded f kind ∈ t := by
  rw [foundedIds, List.mem_filterMap]
  constructor
  · rintro ⟨e, he, h⟩
    cases e <;> cases h
    exact ⟨_, he⟩
  · rintro ⟨kind, h⟩
    exact ⟨_, h, rfl⟩

theorem mem_dissolvedIds : f ∈ dissolvedIds t ↔ .dissolved f ∈ t := by
  rw [dissolvedIds, List.mem_filterMap]
  constructor
  · rintro ⟨e, he, h⟩
    cases e <;> cases h
    exact he
  · exact fun h => ⟨_, h, rfl⟩

theorem mem_connectedIds : f ∈ connectedIds t ↔ .connected f ∈ t := by
  rw [connectedIds, List.mem_filterMap]
  constructor
  · rintro ⟨e, he, h⟩
    cases e <;> cases h
    exact he
  · exact fun h => ⟨_, h, rfl⟩

theorem mem_disconnectedIds : f ∈ disconnectedIds t ↔ .disconnected f ∈ t := by
  rw [disconnectedIds, List.mem_filterMap]
  constructor
  · rintro ⟨e, he, h⟩
    cases e <;> cases h
    exact he
  · exact fun h => ⟨_, h, rfl⟩

/-- Where ids are named once each, an event that names one is counted once. -/
theorem count_of_nodup {name? : Event → Option FacadeId} (h : (t.filterMap name?).Nodup) {e : Event}
    (hname : ∀ e', name? e' = some f ↔ e' = e) : t.count e = if e ∈ t then 1 else 0 := by
  have hcount : (t.filterMap name?).count f = t.count e := by
    rw [List.count, List.countP_filterMap]
    refine List.countP_congr fun e' _ => ?_
    rw [beq_iff_eq, ← hname]
    cases name? e' <;> simp
  have hmem : f ∈ t.filterMap name? ↔ e ∈ t := by
    rw [← List.count_pos_iff, hcount, List.count_pos_iff]
  rw [← hcount, h.count]
  simp only [hmem]

namespace Regular

/-- Ids that events name once each, if an event that names one is due only before any other
does. -/
theorem nodup_ids {name? : Event → Option FacadeId} (h : Regular t)
    (hdue : ∀ e f earlier, name? e = some f → e.Due earlier → f ∉ earlier.filterMap name?) :
    (t.filterMap name?).Nodup := by
  induction t with
  | nil => exact List.nodup_nil
  | cons e t ih =>
    cases hn : name? e with
    | none => rw [List.filterMap_cons_none hn]; exact ih h.2
    | some f =>
      rw [List.filterMap_cons_some hn]
      exact List.nodup_cons.2 ⟨hdue e f t hn h.1, ih h.2⟩

theorem nodup_foundedIds (h : Regular t) : (foundedIds t).Nodup := by
  refine h.nodup_ids fun e f earlier hn hdue hm => ?_
  cases e <;> cases hn
  obtain ⟨kind, hk⟩ := mem_foundedIds.1 hm
  exact hdue.1 kind hk

theorem nodup_dissolvedIds (h : Regular t) : (dissolvedIds t).Nodup := by
  refine h.nodup_ids fun e f earlier hn hdue hm => ?_
  cases e <;> cases hn
  exact hdue.2.1 (mem_dissolvedIds.1 hm)

theorem nodup_connectedIds (h : Regular t) : (connectedIds t).Nodup := by
  refine h.nodup_ids fun e f earlier hn hdue hm => ?_
  cases e <;> cases hn
  exact hdue.1 (mem_connectedIds.1 hm)

theorem nodup_disconnectedIds (h : Regular t) : (disconnectedIds t).Nodup := by
  refine h.nodup_ids fun e f earlier hn hdue hm => ?_
  cases e <;> cases hn
  obtain ⟨⟨kind, hs, -⟩, -⟩ := hdue
  exact hs.connected (mem_disconnectedIds.1 hm)

theorem count_connected (h : Regular t) (f : FacadeId) :
    t.count (.connected f) = if .connected f ∈ t then 1 else 0 :=
  count_of_nodup (f := f) h.nodup_connectedIds fun e => by cases e <;> simp [Event.connected?]

theorem count_disconnected (h : Regular t) (f : FacadeId) :
    t.count (.disconnected f) = if .disconnected f ∈ t then 1 else 0 :=
  count_of_nodup (f := f) h.nodup_disconnectedIds fun e => by cases e <;> simp [Event.disconnected?]

theorem count_dissolved (h : Regular t) (f : FacadeId) :
    t.count (.dissolved f) = if .dissolved f ∈ t then 1 else 0 :=
  count_of_nodup (f := f) h.nodup_dissolvedIds fun e => by cases e <;> simp [Event.dissolved?]

theorem dissolvedIds_subset (h : Regular t) : dissolvedIds t ⊆ foundedIds t := by
  intro f hf
  obtain ⟨earlier, ⟨⟨kind, hk, -⟩, -⟩, -, hsub⟩ := h.of_mem (mem_dissolvedIds.1 hf)
  exact mem_foundedIds.2 ⟨kind, hsub _ hk⟩

theorem length_dissolvedIds_le (h : Regular t) :
    (dissolvedIds t).length ≤ (foundedIds t).length :=
  (h.nodup_dissolvedIds.subperm h.dissolvedIds_subset).length_le

/-- If as many façades gave their lease back as were made, all of them did. -/
theorem all_dissolved (h : Regular t)
    (hlen : (foundedIds t).length ≤ (dissolvedIds t).length) {kind : FacadeKind}
    (hf : .founded f kind ∈ t) : .dissolved f ∈ t := by
  have hperm := (h.nodup_dissolvedIds.subperm h.dissolvedIds_subset).perm_of_length_le hlen
  exact mem_dissolvedIds.1 (hperm.mem_iff.2 (mem_foundedIds.2 ⟨kind, hf⟩))

end Regular

end Ids

end ImageDispatch
