import ImageDispatch.Dispatch.Extensions
import ImageDispatch.Dispatch.Registration
import ImageDispatch.Dispatch.Release
import ImageDispatch.Proofs.Lifetime.Triple

/-!
# Registration

What the callbacks of a table add to a list of extensions, and when there is a library to ask.

* `ListCallback.OnlyAppends`: all that was in the list stays in front, whatever the callback makes
  of it.
* `Appends`: what the entries of a table append, one after the other.
* `LibraryCall.OpenAfter`: the vendor library is open after some calls.
* `registerTable_appends`: how registering a table ends, for callbacks that only append. The vendor
  library registers its tables like this while it is open.
-/

namespace ImageDispatch

open Act

variable {σ : Type}

/-! ## Tables -/

/-- The callback puts what it registers at the end of the list. -/
def ListCallback.OnlyAppends (register : ListCallback σ) : Prop :=
  ∀ list w, ∃ appended, (register list w).1 = list ++ appended

theorem Host.appending_run (host : Host σ) (register : Register σ) (list : List Descriptor)
    (w : World σ) : host.appending register list w =
      (list ++ (host.runForeign register w).1, (host.runForeign register w).2) :=
  rfl

/-- The callbacks that a table can run. -/
def RegistrationTable.Callback {β : Type} (table : Option (RegistrationTable β)) (register : β) :
    Prop :=
  ∃ t, table = some t ∧ ∃ e ∈ t.entries, e.register = some register

/-- The entries, from the first one to the last, append to a list. -/
inductive Appends : List (RegistrationEntry (ListCallback σ)) → List Descriptor → World σ →
    List Descriptor → World σ → Prop
  | nil (list : List Descriptor) (w : World σ) : Appends [] list w [] w
  /-- An entry without a callback is reported. -/
  | missing {e : RegistrationEntry (ListCallback σ)}
    {rest : List (RegistrationEntry (ListCallback σ))} {list appended : List Descriptor}
    {w w' : World σ} (hregister : e.register = none)
    (h : Appends rest list
      (w.note (.log .warn s!"registration '{e.text}' has no callback, skipping")) appended w') :
    Appends (e :: rest) list w appended w'
  | present {e : RegistrationEntry (ListCallback σ)}
    {rest : List (RegistrationEntry (ListCallback σ))} {register : ListCallback σ}
    {list first appended : List Descriptor} {w w₁ w' : World σ}
    (hregister : e.register = some register) (hrun : register list w = (list ++ first, w₁))
    (h : Appends rest (list ++ first)
      (w₁.note (.log .debug s!"registration '{e.text}' contributed {first.length} extensions"))
      appended w') :
    Appends (e :: rest) list w (first ++ appended) w'

theorem registerEntry_missing {e : RegistrationEntry (ListCallback σ)} (h : e.register = none)
    (list : List Descriptor) (w : World σ) : registerEntry list e w =
      (list, w.note (.log .warn s!"registration '{e.text}' has no callback, skipping")) := by
  unfold registerEntry
  rw [h]
  rfl

theorem registerEntry_present {e : RegistrationEntry (ListCallback σ)} {register : ListCallback σ}
    {list first : List Descriptor} {w w₁ : World σ} (h : e.register = some register)
    (hrun : register list w = (list ++ first, w₁)) : registerEntry list e w = (list ++ first,
      w₁.note (.log .debug
        s!"registration '{e.text}' contributed {first.length} extensions")) := by
  have hlength : (list ++ first).length - list.length = first.length := by simp
  unfold registerEntry
  rw [h]
  dsimp only
  rw [bind_of_run hrun, hlength]
  rfl

/-- The entries of a table append if their callbacks do. -/
theorem appends_entries {entries : List (RegistrationEntry (ListCallback σ))}
    (h : ∀ e ∈ entries, ∀ register, e.register = some register → register.OnlyAppends)
    (list : List Descriptor) (w : World σ) :
    ∃ appended, (entries.foldlM registerEntry list w).1 = list ++ appended ∧
      Appends entries list w appended (entries.foldlM registerEntry list w).2 := by
  induction entries generalizing list w with
  | nil => exact ⟨[], (List.append_nil list).symm, .nil list w⟩
  | cons e rest ih =>
    obtain ⟨he, hrest⟩ := List.forall_mem_cons.1 h
    rw [List.foldlM_cons]
    cases hregister : e.register with
    | none =>
      rw [bind_of_run (registerEntry_missing hregister list w)]
      obtain ⟨appended, hlist, happends⟩ := ih hrest list _
      exact ⟨appended, hlist, .missing hregister happends⟩
    | some register =>
      obtain ⟨first, hfirst⟩ := he register hregister list w
      have hrun : register list w = (list ++ first, (register list w).2) := Prod.ext hfirst rfl
      rw [bind_of_run (registerEntry_present hregister hrun)]
      obtain ⟨appended, hlist, happends⟩ := ih hrest (list ++ first) _
      refine ⟨first ++ appended, ?_, .present hregister hrun happends⟩
      rw [hlist, List.append_assoc]

namespace RegistrationTable

variable {β γ : Type}

/-- The callbacks of a table can be run exactly if it is there and of this version. -/
theorem entries?_eq_ok {table : Option (RegistrationTable β)}
    {entries : List (RegistrationEntry β)} : entries? table = .ok entries ↔
      ∃ t, table = some t ∧ t.version = boundaryVersion ∧ t.entries = entries := by
  cases table with
  | none => simp [entries?]
  | some t =>
    unfold entries?
    by_cases h : t.version = boundaryVersion <;> simp [h]

theorem entries?_eq_error {table : Option (RegistrationTable β)} {e : LoadError} :
    entries? table = .error e ↔ table = none ∧ e = .nullTable ∨
      ∃ t, table = some t ∧ t.version ≠ boundaryVersion ∧
        e = .abiMismatch boundaryVersion t.version := by
  cases table with
  | none => simp [entries?, eq_comm]
  | some t =>
    unfold entries?
    by_cases h : t.version = boundaryVersion
    · simp [h]
    · simpa [h] using eq_comm

theorem entries?_map (f : β → γ) (table : Option (RegistrationTable β)) :
    entries? (table.map (.map f)) = (entries? table).map (List.map (.map f)) := by
  cases table with
  | none => rfl
  | some t =>
    have hentries : (t.map f).entries = t.entries.map (.map f) := by
      unfold entries map
      cases t.array with
      | none => simp
      | some entries => exact List.map_take.symm
    have hversion : (t.map f).version = t.version := rfl
    rw [Option.map_some, entries?, entries?]
    by_cases h : t.version = boundaryVersion <;> simp [h, hversion, hentries, Except.map]

end RegistrationTable

theorem registerTable_of_ok {table : Option (RegistrationTable (ListCallback σ))}
    {entries : List (RegistrationEntry (ListCallback σ))}
    (h : RegistrationTable.entries? table = .ok entries) (list : List Descriptor) (w : World σ) :
    registerTable table list w =
      ((.ok ((entries.foldlM registerEntry list w).1.length - list.length),
        (entries.foldlM registerEntry list w).1), (entries.foldlM registerEntry list w).2) := by
  unfold registerTable
  rw [h]
  rfl

theorem registerTable_of_error {table : Option (RegistrationTable (ListCallback σ))}
    {e : LoadError} (h : RegistrationTable.entries? table = .error e) (list : List Descriptor)
    (w : World σ) : registerTable table list w = ((.error e, list), w) := by
  unfold registerTable
  rw [h]
  rfl

/-! ## The vendor library -/

theorem Library.registering?_ne_notOpen {β : Type} (l : Library β) (family : ExtensionFamily) :
    Library.registering? (some l) family ≠ .error .notOpen := by
  unfold Library.registering?
  dsimp only
  rcases l.symbol? family with _ | ⟨t | register⟩
  · simp
  · cases h : RegistrationTable.entries? t with
    | ok entries => simp [h, Except.map]
    | error e =>
      rcases RegistrationTable.entries?_eq_error.1 h with ⟨-, rfl⟩ | ⟨t, -, -, rfl⟩ <;>
        simp [h, Except.map]
  · simp

namespace Host

variable {host : Host σ} {family : ExtensionFamily} {path : String} {w : World σ}

theorem registerEntry_appending (e : RegistrationEntry (Register σ)) (list : List Descriptor)
    (w : World σ) : registerEntry list (e.map host.appending) w =
      (list ++ (host.runEntry e w).1, (host.runEntry e w).2) := by
  cases hregister : e.register with
  | none =>
    have hmissing : (e.map host.appending).register = none := by
      rw [RegistrationEntry.map, hregister]
      rfl
    rw [registerEntry_missing hmissing, runEntry, hregister]
    exact congrArg (·, _) (List.append_nil list).symm
  | some register =>
    have hpresent : (e.map host.appending).register = some (host.appending register) := by
      rw [RegistrationEntry.map, hregister]
      rfl
    rw [registerEntry_present hpresent (host.appending_run register list w), runEntry, hregister]
    rfl

/-- Callbacks that work on the list leave there what they are said to append. -/
theorem foldlM_appending (entries : List (RegistrationEntry (Register σ)))
    (list : List Descriptor) (w : World σ) :
    (entries.map (.map host.appending)).foldlM registerEntry list w =
      (list ++ (entries.mapM host.runEntry w).1.flatten, (entries.mapM host.runEntry w).2) := by
  induction entries generalizing list w with
  | nil => exact congrArg (·, w) (List.append_nil list).symm
  | cons e rest ih =>
    rw [List.map_cons, List.foldlM_cons, bind_of_run (registerEntry_appending e list w), ih,
      List.append_assoc, List.mapM_cons]
    rfl

/-- An open library registers a family as the table behind the symbol says. -/
theorem registerTable_library {l : Library (Register σ)}
    {t : Option (RegistrationTable (Register σ))}
    (hopen : w.library = some l) (hsymbol : l.symbol? family = some (.table t))
    (list : List Descriptor) :
    let r := host.registerLibrary family w
    registerTable (t.map (.map host.appending)) list w =
      ((r.1.map List.length, list ++ r.1.toOption.getD []), r.2) := by
  have hregistering : Library.registering? (some l) family =
      (RegistrationTable.entries? t).map .entries := by
    rw [Library.registering?, hsymbol]
  have hmap := RegistrationTable.entries?_map host.appending t
  unfold registerLibrary
  rw [get_run, hopen, hregistering]
  cases hentries : RegistrationTable.entries? t with
  | error e =>
    rw [hentries] at hmap
    rw [registerTable_of_error hmap]
    show ((Except.error e, list), w) = ((Except.error e, list ++ []), w)
    rw [List.append_nil]
  | ok entries =>
    rw [hentries] at hmap
    rw [registerTable_of_ok hmap, foldlM_appending, List.length_append, Nat.add_sub_cancel_left]
    rfl

/-- Only a library that is not open is reported as such. -/
theorem registerLibrary_notOpen_iff :
    (host.registerLibrary family w).1 = .error .notOpen ↔ w.library = none := by
  unfold registerLibrary
  rw [get_run]
  cases hlibrary : w.library with
  | none => exact iff_of_true rfl rfl
  | some l =>
    refine iff_of_false (fun h => ?_) (by simp)
    cases hregistering : Library.registering? (some l) family with
    | ok registering =>
      rw [hregistering] at h
      cases h
    | error e =>
      rw [hregistering] at h
      obtain rfl : e = .notOpen := Except.error.inj h
      exact Library.registering?_ne_notOpen l family hregistering

theorem openSource_library (hsource : host.env.source = .library path) (w : World σ) :
    (host.openSource w).2.library = w.library.or (host.env.loader path w.memory).toOption := by
  unfold openSource
  rw [hsource]
  dsimp only
  rw [get_run]
  cases hlibrary : w.library with
  | some l => exact hlibrary
  | none =>
    cases host.env.loader path w.memory with
    | error reason => exact hlibrary
    | ok l => rfl

theorem closeSource_library (hsource : host.env.source = .library path) (w : World σ) :
    (host.closeSource w).2.library = none := by
  unfold closeSource
  rw [hsource]
  dsimp only
  rw [bind_run, get_run]
  cases hlibrary : (emit .closed w).2.library with
  | none => exact hlibrary
  | some l => rfl

end Host

/-- A call that opens or closes the vendor library. -/
inductive LibraryCall (σ : Type)
  /-- Open it, at a time when the world outside has come to `memory`. -/
  | openUp (memory : σ)
  | close

namespace LibraryCall

/-- What a call leaves behind. -/
def take (host : Host σ) (w : World σ) : LibraryCall σ → World σ
  | openUp memory => (host.openSource { w with memory }).2
  | close => (host.closeSource w).2

/-- What calls leave behind. -/
def takeAll (host : Host σ) (calls : List (LibraryCall σ)) (w : World σ) : World σ :=
  calls.foldl (take host) w

section

variable (host : Host σ) (path : String)

/-- The call opens the library at a time when it can be loaded. -/
def Loads (call : LibraryCall σ) : Prop :=
  ∃ memory l, call = openUp memory ∧ host.env.loader path memory = .ok l

/-- One of the calls loads the library, unless it is open, and no later one closes it. -/
def LeavesOpen (calls : List (LibraryCall σ)) : Prop :=
  ∃ before call after, calls = before ++ call :: after ∧ Loads host path call ∧ close ∉ after

/-- The library was open before the calls, or one of them has opened it, and it was not closed
since. -/
def OpenAfter (w : World σ) (calls : List (LibraryCall σ)) : Prop :=
  (w.library.isSome = true ∧ close ∉ calls) ∨ LeavesOpen host path calls

end

variable {host : Host σ} {path : String}

theorem loads_openUp {memory : σ} : Loads host path (openUp memory) ↔
    (host.env.loader path memory).toOption.isSome = true := by
  cases h : host.env.loader path memory <;> simp [Loads, h, Except.toOption]

theorem not_loads_close : ¬Loads host path close := by
  rintro ⟨memory, l, h, -⟩
  cases h

theorem not_leavesOpen_nil : ¬LeavesOpen host path [] := by
  rintro ⟨before, call, after, h, -⟩
  exact List.append_ne_nil_of_right_ne_nil before (List.cons_ne_nil _ _) h.symm

theorem leavesOpen_cons {call : LibraryCall σ} {calls : List (LibraryCall σ)} :
    LeavesOpen host path (call :: calls) ↔
      (Loads host path call ∧ close ∉ calls) ∨ LeavesOpen host path calls := by
  constructor
  · rintro ⟨before, call', after, h, hloads, hclose⟩
    rcases List.cons_eq_append_iff.1 h with ⟨-, h⟩ | ⟨before', -, h⟩
    · obtain ⟨rfl, rfl⟩ := List.cons.inj h
      exact .inl ⟨hloads, hclose⟩
    · exact .inr ⟨before', call', after, h, hloads, hclose⟩
  · rintro (⟨hloads, hclose⟩ | ⟨before, call', after, rfl, hloads, hclose⟩)
    · exact ⟨[], call, calls, rfl, hloads, hclose⟩
    · exact ⟨call :: before, call', after, rfl, hloads, hclose⟩

variable (hsource : host.env.source = .library path)

include hsource

/-- The first call can be made before the others are looked at. -/
theorem openAfter_cons (w : World σ) (call : LibraryCall σ) (calls : List (LibraryCall σ)) :
    OpenAfter host path w (call :: calls) ↔ OpenAfter host path (call.take host w) calls := by
  unfold OpenAfter
  rw [leavesOpen_cons]
  cases call with
  | close =>
    have hclosed : (close.take host w).library = none := Host.closeSource_library hsource w
    simp [hclosed, not_loads_close]
  | openUp memory =>
    have hopen : ((openUp memory).take host w).library =
        w.library.or (host.env.loader path memory).toOption :=
      Host.openSource_library hsource { w with memory }
    rw [hopen, loads_openUp]
    cases (host.env.loader path memory).toOption <;> cases w.library <;> simp

/-- The vendor library is there after calls exactly if they leave it open. -/
theorem isSome_takeAll (calls : List (LibraryCall σ)) (w : World σ) :
    (takeAll host calls w).library.isSome = true ↔ OpenAfter host path w calls := by
  induction calls generalizing w with
  | nil => simp [takeAll, OpenAfter, not_leavesOpen_nil]
  | cons call rest ih =>
    rw [openAfter_cons hsource]
    exact ih (call.take host w)

end LibraryCall

/-! ## Registering -/

/-- Registering a table succeeds exactly if it is there and of this version. Then its entries have
appended to the list, one after the other, and the number is that of the extensions that are new.
Else nothing has run and the list is what it was. The vendor library registers a family in the same
way from the table behind its symbol, as long as calls have left it open, whatever the world outside
has come to by then. -/
theorem registerTable_appends (table : Option (RegistrationTable (ListCallback σ)))
    (list : List Descriptor) (w : World σ)
    (h : ∀ register, RegistrationTable.Callback table register → register.OnlyAppends) :
    let r := registerTable table list w
    ((∃ n, r.1.1 = .ok n) ↔ ∃ t, table = some t ∧ t.version = boundaryVersion) ∧
    (∀ n, r.1.1 = .ok n → ∃ t appended, table = some t ∧ Appends t.entries list w appended r.2 ∧
      r.1.2 = list ++ appended ∧ n = appended.length) ∧
    (∀ e, r.1.1 = .error e → r.1.2 = list ∧ r.2 = w ∧
      (table = none ∧ e = .nullTable ∨ ∃ t, table = some t ∧ t.version ≠ boundaryVersion ∧
        e = .abiMismatch boundaryVersion t.version)) ∧
    ∀ (host : Host σ) path, host.env.source = .library path → ∀ calls before memory family,
      let now := { LibraryCall.takeAll host calls before with memory }
      let answer := host.registerLibrary family now
      (answer.1 = .error .notOpen ↔ ¬LibraryCall.OpenAfter host path before calls) ∧
      ∀ l t, now.library = some l → l.symbol? family = some (.table t) →
        registerTable (t.map (.map host.appending)) list now =
          ((answer.1.map List.length, list ++ answer.1.toOption.getD []), answer.2) := by
  refine ⟨?succeeds, fun n hn => ?appends, fun e he => ?fails,
    fun host path hsource calls before memory family => ⟨?notOpen, fun l t hl ht =>
      Host.registerTable_library hl ht list⟩⟩
  case succeeds =>
    cases hentries : RegistrationTable.entries? table with
    | ok entries =>
      obtain ⟨t, ht, hversion, -⟩ := RegistrationTable.entries?_eq_ok.1 hentries
      rw [registerTable_of_ok hentries]
      exact iff_of_true ⟨_, rfl⟩ ⟨t, ht, hversion⟩
    | error e =>
      rw [registerTable_of_error hentries]
      refine iff_of_false (by simp) fun ⟨t, ht, hversion⟩ => ?_
      have hok := RegistrationTable.entries?_eq_ok.2 ⟨t, ht, hversion, rfl⟩
      cases hentries.symm.trans hok
  case appends =>
    cases hentries : RegistrationTable.entries? table with
    | ok entries =>
      obtain ⟨t, ht, -, rfl⟩ := RegistrationTable.entries?_eq_ok.1 hentries
      obtain ⟨appended, hlist, happends⟩ := appends_entries
        (fun e he register hregister => h register ⟨t, ht, e, he, hregister⟩) list w
      rw [registerTable_of_ok hentries, hlist, List.length_append, Nat.add_sub_cancel_left] at hn
      rw [registerTable_of_ok hentries]
      exact ⟨t, appended, ht, happends, hlist, (Except.ok.inj hn).symm⟩
    | error e =>
      rw [registerTable_of_error hentries] at hn
      cases hn
  case fails =>
    cases hentries : RegistrationTable.entries? table with
    | ok entries =>
      rw [registerTable_of_ok hentries] at he
      cases he
    | error e' =>
      rw [registerTable_of_error hentries] at he ⊢
      obtain rfl := Except.error.inj he
      exact ⟨rfl, rfl, RegistrationTable.entries?_eq_error.1 hentries⟩
  case notOpen =>
    rw [Host.registerLibrary_notOpen_iff, ← LibraryCall.isSome_takeAll hsource,
      Option.not_isSome_iff_eq_none]

/-- A callback that appends what is there already. -/
def ListCallback.doubling : ListCallback Unit := fun list => return list ++ list

/-- A table of a callback that is missing and one with a name that is no text. -/
def RegistrationTable.untitled : RegistrationTable (ListCallback Unit) :=
  ⟨1, 2, some [⟨none, none⟩, ⟨some [255], some .doubling⟩]⟩

/-- An extension that serves nothing. -/
def Descriptor.idle : Descriptor := ⟨⟨.refreshRate, "idle", "1"⟩, .refresh [], ⟨0⟩⟩

/-- A missing callback is left out, and the one after it appends what it finds in the list. -/
theorem registerTable_appends_untitled :
    (∀ register, RegistrationTable.Callback (some .untitled) register → register.OnlyAppends) ∧
      ∃ w', Appends RegistrationTable.untitled.entries [.idle] { memory := () } [.idle] w' ∧
        (registerTable (some .untitled) [.idle] { memory := () }).1 = (.ok 1, [.idle, .idle]) := by
  have honly : ∀ register, RegistrationTable.Callback (some .untitled) register →
      register.OnlyAppends := by
    rintro register ⟨t, ht, e, he, hregister⟩
    obtain rfl := Option.some.inj ht
    simp [RegistrationTable.untitled, RegistrationTable.entries] at he
    rcases he with rfl | rfl
    · cases hregister
    · obtain rfl := Option.some.inj hregister
      exact fun list w => ⟨list, rfl⟩
  obtain ⟨t, appended, ht, happends, hlist, -⟩ :=
    (registerTable_appends (some .untitled) [.idle] { memory := () } honly).2.1 1 rfl
  obtain rfl := Option.some.inj ht
  have hcons : Descriptor.idle :: [Descriptor.idle] = Descriptor.idle :: appended := hlist
  obtain rfl := (List.cons.inj hcons).2
  exact ⟨honly, _, happends, rfl⟩

end ImageDispatch
