import Persistency.Rust.Codec
import Persistency.Rust.KvsBuilder

namespace Persistency.Rust
set_option autoImplicit true

section Load

/-- Both files are there and intact: the text of a JSON object, and the hash of the text. -/
def Intact (c : Crates) (p q : Path) (disk : Fs) (m : KvsMap) : Prop :=
  ∃ text j, disk p = some (utf8 text) ∧ disk q = some (hashOf c text) ∧ c.parse text = some j ∧
    kvsValueFrom j = .ofMap m

inductive Invalid (c : Crates) (p q : Path) (disk : Fs) : Prop
  | utf8 (hp : disk p = some b) (hq : disk q = some h) (hb : ofUtf8? b = none)
  | hash (hp : disk p = some (utf8 text)) (hq : disk q = some h) (hh : h ≠ hashOf c text)
  | json (hp : disk p = some (utf8 text)) (hq : disk q = some h) (hj : c.parse text = none)
  | object (hp : disk p = some (utf8 text)) (hq : disk q = some h) (hj : c.parse text = some j)
    (hm : ∀ m, kvsValueFrom j ≠ .ofMap m)

/-- What `load` takes for a pair that was never written. -/
def Unfound (p q : Path) (disk : Fs) : Prop :=
  disk p = none ∨ (∃ text, disk p = some (utf8 text)) ∧ disk q = none

variable {c : Crates} {disk : Fs}

theorem present_cases (hp : disk p = some b) (hq : disk q = some h) :
    (∃ m, Intact c p q disk m) ∨ Invalid c p q disk := by
  cases htext : ofUtf8? b with
  | none => exact .inr (.utf8 hp hq htext)
  | some text =>
    rw [utf8_of_ofUtf8 htext] at hp
    by_cases hh : h = hashOf c text
    · rw [hh] at hq
      cases hj : c.parse text with
      | none => exact .inr (.json hp hq hj)
      | some j =>
        by_cases hm : ∃ m, kvsValueFrom j = .ofMap m
        · obtain ⟨m, hm⟩ := hm
          exact .inl ⟨m, text, j, hp, hq, hj, hm⟩
        · exact .inr (.object hp hq hj fun m he => hm ⟨m, he⟩)
    · exact .inr (.hash hp hq hh)

theorem load_intact (hext : JsonBackend.checkPathExtensions p q = .ok ())
    (h : Intact c p q disk m) : JsonBackend.load c p q disk = .ok m := by
  obtain ⟨text, j, hp, hq, hj, hm⟩ := h
  rw [load_pair hext hp hq, decodeText, hj]
  simp only [hm, KvsValue.ofMap]

def Reported (e : ErrorCode) : Prop := e ≠ .fileNotFound ∧ e ≠ .kvsHashFileReadError

theorem load_text {h : Bytes} (hext : JsonBackend.checkPathExtensions p q = .ok ())
    (hp : disk p = some (utf8 text)) (hq : disk q = some h) (hbad : decodeText c text = .error e)
    (he : Reported e) : ∃ e, JsonBackend.load c p q disk = .error e ∧ Reported e := by
  by_cases hh : h = hashOf c text
  · rw [hh] at hq
    exact ⟨e, (load_pair hext hp hq).trans hbad, he⟩
  · exact ⟨.validationFailed, load_mismatch hext hp hq hh, nofun, nofun⟩

theorem load_binary (hext : JsonBackend.checkPathExtensions p q = .ok ())
    (hp : disk p = some b) (hb : ofUtf8? b = none) :
    JsonBackend.load c p q disk = .error .unmappedError := by
  simp only [JsonBackend.load, hext, fsReadToString, fsRead, hp, hb, bind, Except.bind,
    ErrorCode.ofIo]

theorem load_invalid (hext : JsonBackend.checkPathExtensions p q = .ok ())
    (h : Invalid c p q disk) : ∃ e, JsonBackend.load c p q disk = .error e ∧ Reported e := by
  cases h with
  | utf8 hp hq hb => exact ⟨.unmappedError, load_binary hext hp hb, by decide, by decide⟩
  | hash hp hq hh => exact ⟨.validationFailed, load_mismatch hext hp hq hh, by decide, by decide⟩
  | @json text h hp hq hj =>
    have hbad : decodeText c text = .error .jsonParserError := by rw [decodeText, hj]
    exact load_text hext hp hq hbad ⟨by decide, by decide⟩
  | @object text h j hp hq hj hm =>
    have hbad : decodeText c text = .error .jsonParserError := by
      rw [decodeText, hj]
      cases hv : kvsValueFrom j with
      | object keys vals => exact absurd hv (hm ⟨keys, vals⟩)
      | _ => simp only [hv]
    exact load_text hext hp hq hbad ⟨by decide, by decide⟩

theorem load_unfound (hext : JsonBackend.checkPathExtensions p q = .ok ())
    (h : Unfound p q disk) : JsonBackend.load c p q disk = .error .fileNotFound := by
  rcases h with hp | ⟨⟨text, hp⟩, hq⟩
  · exact load_missing hext hp
  · exact load_unhashed hext hp hq

theorem load_cases (c : Crates) (disk : Fs)
    (hext : JsonBackend.checkPathExtensions p q = .ok ()) :
    (∃ m, Intact c p q disk m) ∨ Unfound p q disk ∨
      ∃ e, JsonBackend.load c p q disk = .error e ∧ Reported e := by
  cases hp : disk p with
  | none => exact .inr (.inl (.inl hp))
  | some b =>
    cases hq : disk q with
    | none =>
      cases htext : ofUtf8? b with
      | none => exact .inr (.inr ⟨.unmappedError, load_binary hext hp htext, nofun, nofun⟩)
      | some text =>
        rw [utf8_of_ofUtf8 htext] at hp
        exact .inr (.inl (.inr ⟨⟨text, hp⟩, hq⟩))
    | some h =>
      rcases present_cases (c := c) hp hq with hm | hbad
      · exact .inl hm
      · exact .inr (.inr (load_invalid hext hbad))

theorem load_ok_iff (hext : JsonBackend.checkPathExtensions p q = .ok ()) :
    JsonBackend.load c p q disk = .ok m ↔ Intact c p q disk m := by
  apply Iff.intro
  · intro h
    rcases load_cases c disk hext with ⟨m', hm⟩ | hno | ⟨e, he, -⟩
    · cases (load_intact hext hm).symm.trans h
      exact hm
    · cases (load_unfound hext hno).symm.trans h
    · cases he.symm.trans h
  · exact load_intact hext

theorem load_notFound_iff (hext : JsonBackend.checkPathExtensions p q = .ok ()) :
    JsonBackend.load c p q disk = .error .fileNotFound ↔ Unfound p q disk := by
  apply Iff.intro
  · intro h
    rcases load_cases c disk hext with ⟨m, hm⟩ | hno | ⟨e, he, hne, -⟩
    · cases (load_intact hext hm).symm.trans h
    · exact hno
    · cases he.symm.trans h
      exact absurd rfl hne
  · exact load_unfound hext

theorem load_ne_hash (hext : JsonBackend.checkPathExtensions p q = .ok ()) :
    JsonBackend.load c p q disk ≠ .error .kvsHashFileReadError := by
  intro h
  rcases load_cases c disk hext with ⟨m, hm⟩ | hno | ⟨e, he, -, hne⟩
  · cases (load_intact hext hm).symm.trans h
  · cases (load_unfound hext hno).symm.trans h
  · cases he.symm.trans h
    exact absurd rfl hne

end Load

def KvsBuilder.built (self : KvsBuilder) (c : Crates) (disk : Fs) (process : Process) :
    Except ErrorCode KvsData :=
  match self.build c disk process with
  | (.ok kvs, process) => .ok (process.cells kvs.data)
  | (.error e, _) => .error e

/-- What a build may make of the pair `p`, `q` that `part` of its data is loaded from: nothing but
the absence of both files is taken for an empty map, and the missing file is told by the error,
when the build gets as far as the pair. -/
structure HidesNothing (c : Crates) (p q : Path) (disk : Fs) (reached : Prop)
    (built : Except ErrorCode KvsData) (part : KvsData → KvsMap) : Prop where
  loaded : ∀ data, built = .ok data → Intact c p q disk (part data) ∨
    disk p = none ∧ disk q = none ∧ part data = .empty
  fails : (disk p).isSome ≠ (disk q).isSome ∨ Invalid c p q disk → ∃ e, built = .error e
  hashMissing : reached → disk p ≠ none → disk q = none → built = .error .kvsHashFileReadError
  jsonMissing : reached → disk p = none → disk q ≠ none → built = .error .fileNotFound

def relaxed (optional : Bool) : Except ErrorCode KvsMap → Except ErrorCode KvsMap
  | .error .fileNotFound => if optional then .ok .empty else .error .fileNotFound
  | r => r

section Pair

variable {c : Crates} {disk : Fs} {optional : Bool} {next : KvsMap → Except ErrorCode KvsData}
  {part : KvsData → KvsMap}

theorem relaxed_ne (h : r ≠ .error e) (he : e ≠ .fileNotFound) : relaxed optional r ≠ .error e := by
  unfold relaxed
  split
  · cases optional with
    | false => exact fun hr => he (Except.error.inj hr).symm
    | true => nofun
  · exact h

theorem hidesNothing_of_loaded (hext : JsonBackend.checkPathExtensions p q = .ok ())
    (hloaded : ∀ data, built = .ok data → Intact c p q disk (part data) ∨
      disk p = none ∧ disk q = none ∧ part data = .empty)
    (hhash : reached → disk p ≠ none → disk q = none → built = .error .kvsHashFileReadError)
    (hjson : reached → disk p = none → disk q ≠ none → built = .error .fileNotFound) :
    HidesNothing c p q disk reached built part := by
  refine ⟨hloaded, ?_, hhash, hjson⟩
  cases hb : built with
  | error e => exact fun _ => ⟨e, rfl⟩
  | ok data =>
    intro hbad
    rcases hloaded data hb with hi | ⟨hp, hq, -⟩
    · rcases hbad with hone | hinvalid
      · obtain ⟨text, j, hp, hq, -⟩ := hi
        rw [hp, hq] at hone
        exact absurd rfl hone
      · obtain ⟨e, he, -⟩ := load_invalid hext hinvalid
        cases he.symm.trans (load_intact hext hi)
    · rcases hbad with hone | hinvalid
      · rw [hp, hq] at hone
        exact absurd rfl hone
      · cases hinvalid with
        | utf8 hp' | hash hp' | json hp' | object hp' => cases hp.symm.trans hp'

theorem hidesNothing_absent (hext : JsonBackend.checkPathExtensions p q = .ok ())
    (hp : disk p = none) (hq : disk q = none)
    (hpart : ∀ m data, next m = .ok data → part data = m) :
    HidesNothing c p q disk reached (next .empty) part :=
  hidesNothing_of_loaded hext (fun _ hd => .inr ⟨hp, hq, hpart _ _ hd⟩) (fun _ h => absurd hp h)
    fun _ _ h => absurd hq h

theorem hidesNothing_present (hext : JsonBackend.checkPathExtensions p q = .ok ())
    (hp : disk p = some b) (hq : disk q = some h)
    (hpart : ∀ m data, next m = .ok data → part data = m) :
    HidesNothing c p q disk reached (relaxed optional (JsonBackend.load c p q disk) >>= next)
      part := by
  apply hidesNothing_of_loaded hext
  · intro data hd
    rcases present_cases (c := c) hp hq with ⟨m, hm⟩ | hinvalid
    · rw [load_intact hext hm] at hd
      rw [hpart m data hd]
      exact .inl hm
    · obtain ⟨e, he, hne, -⟩ := load_invalid hext hinvalid
      have herror : relaxed optional (.error e) = .error e := by
        unfold relaxed
        split
        · rename_i heq
          cases heq
          exact absurd rfl hne
        · rfl
      rw [he, herror] at hd
      cases hd
  · exact fun _ _ hno => by cases hq.symm.trans hno
  · exact fun _ hno => by cases hp.symm.trans hno

theorem unhashed_ne (hext : JsonBackend.checkPathExtensions p q = .ok ()) (hq : disk q = none)
    (hnext : ∀ m, next m ≠ .error .kvsHashFileReadError) :
    (relaxed optional (JsonBackend.load c p q disk) >>= next) ≠ .error .kvsHashFileReadError := by
  rcases load_cases c disk hext with ⟨m, text, j, -, hq', -⟩ | hno | ⟨e, he, hne, hne'⟩
  · cases hq.symm.trans hq'
  · rw [load_unfound hext hno]
    cases optional with
    | false => exact fun h => absurd (Except.error.inj h) nofun
    | true => exact hnext .empty
  · rw [he]
    intro h
    cases hr : relaxed optional (.error e) with
    | ok m =>
      rw [hr] at h
      exact hnext m h
    | error e' =>
      rw [hr] at h
      cases h
      exact relaxed_ne (fun he' => hne' (Except.error.inj he')) nofun hr

theorem hidesNothing_iff (hext : JsonBackend.checkPathExtensions p q = .ok ())
    (hpart : ∀ m data, next m = .ok data → part data = m)
    (hnext : ∀ m, next m ≠ .error .kvsHashFileReadError) :
    HidesNothing c p q disk True (relaxed optional (JsonBackend.load c p q disk) >>= next) part ↔
      ¬ (disk p ≠ none ∧ disk q = none) ∧ (optional = true → disk p = none → disk q ≠ none →
        next .empty = .error .fileNotFound) := by
  cases hp : disk p with
  | none =>
    rw [load_missing hext hp]
    cases optional with
    | false =>
      apply iff_of_true
      · exact hidesNothing_of_loaded hext nofun (fun _ h => absurd hp h) fun _ _ _ => rfl
      · exact ⟨fun h => h.1 rfl, nofun⟩
    | true =>
      change HidesNothing c p q disk True (next .empty) part ↔ _
      cases hq : disk q with
      | none =>
        apply iff_of_true (hidesNothing_absent hext hp hq hpart)
        exact ⟨fun h => h.1 rfl, fun _ _ h => absurd rfl h⟩
      | some b =>
        have hq' : disk q ≠ none := by rw [hq]; nofun
        apply Iff.intro
        · intro h
          exact ⟨fun hno => hno.1 rfl, fun _ _ _ => h.jsonMissing trivial hp hq'⟩
        · rintro ⟨-, h⟩
          have herror := h rfl rfl nofun
          rw [herror]
          exact hidesNothing_of_loaded hext nofun (fun _ hne => absurd hp hne) fun _ _ _ => rfl
  | some b =>
    cases hq : disk q with
    | none =>
      have hp' : disk p ≠ none := by rw [hp]; nofun
      apply iff_of_false
      · exact fun h => unhashed_ne hext hq hnext (h.hashMissing trivial hp' hq)
      · exact fun h => h.1 ⟨nofun, rfl⟩
    | some b' => exact iff_of_true (hidesNothing_present hext hp hq hpart) ⟨nofun, nofun⟩

end Pair

theorem map_error_iff {f : KvsMap → KvsData} {r : Except ErrorCode KvsMap} :
    r.map f = .error e ↔ r = .error e := by
  cases r with
  | ok m => exact iff_of_false nofun nofun
  | error e' => rw [Except.map, Except.error.injEq, Except.error.injEq]

theorem map_ok {f : KvsMap → KvsData} {r : Except ErrorCode KvsMap} (h : r.map f = .ok data) :
    ∃ m, r = .ok m ∧ f m = data := by
  cases r with
  | ok m => exact ⟨m, rfl, Except.ok.inj h⟩
  | error e => cases h

section Build

variable (self : KvsBuilder) (c : Crates) (disk : Fs)

theorem loadDefaultsMap_eq (h : parameters.defaults ≠ .ignored) :
    KvsBuilder.loadDefaultsMap c parameters disk =
      relaxed (parameters.defaults = .optional)
        (parameters.backend.loadDefaults c parameters.instanceId disk) := by
  unfold KvsBuilder.loadDefaultsMap
  cases hmode : parameters.defaults with
  | ignored => exact absurd hmode h
  | optional => cases parameters.backend.loadDefaults c parameters.instanceId disk with
    | ok m => rfl
    | error e => cases e <;> rfl
  | required => cases parameters.backend.loadDefaults c parameters.instanceId disk with
    | ok m => rfl
    | error e => cases e <;> rfl

theorem loadKvsMap_eq (h : parameters.kvsLoad ≠ .ignored) :
    KvsBuilder.loadKvsMap c parameters disk =
      relaxed (parameters.kvsLoad = .optional)
        (parameters.backend.loadKvs c parameters.instanceId 0 disk) := by
  unfold KvsBuilder.loadKvsMap
  cases hmode : parameters.kvsLoad with
  | ignored => exact absurd hmode h
  | optional => cases parameters.backend.loadKvs c parameters.instanceId 0 disk with
    | ok m => rfl
    | error e => cases e <;> rfl
  | required => cases parameters.backend.loadKvs c parameters.instanceId 0 disk with
    | ok m => rfl
    | error e => cases e <;> rfl

theorem loadKvsMap_ne_hash :
    KvsBuilder.loadKvsMap c parameters disk ≠ .error .kvsHashFileReadError := by
  by_cases hmode : parameters.kvsLoad = .ignored
  · rw [KvsBuilder.loadKvsMap, hmode]
    nofun
  · rw [loadKvsMap_eq c disk hmode]
    exact relaxed_ne (load_ne_hash (parameters.backend.checkPathExtensions_slot _ 0)) nofun

theorem loadKvsMap_notFound_iff :
    KvsBuilder.loadKvsMap c parameters disk = .error .fileNotFound ↔
      parameters.kvsLoad = .required ∧
        Unfound (parameters.backend.kvsFilePath parameters.instanceId 0)
          (parameters.backend.hashFilePath parameters.instanceId 0) disk := by
  rw [← load_notFound_iff (c := c) (parameters.backend.checkPathExtensions_slot _ 0)]
  unfold KvsBuilder.loadKvsMap
  cases hmode : parameters.kvsLoad with
  | ignored => exact iff_of_false nofun fun h => nomatch h.1
  | optional =>
    apply iff_of_false _ fun h => nomatch h.1
    cases parameters.backend.loadKvs c parameters.instanceId 0 disk with
    | ok m => nofun
    | error e => cases e <;> nofun
  | required => exact ⟨fun h => ⟨rfl, h⟩, fun h => h.2⟩

/-- The files of the defaults let a build get as far as slot `0`. -/
def DefaultsLoad (c : Crates) (parameters : KvsParameters) (disk : Fs) : Prop :=
  let p := parameters.backend.defaultsFilePath parameters.instanceId
  let q := parameters.backend.defaultsHashFilePath parameters.instanceId
  match parameters.defaults with
  | .ignored => True
  | .optional => (∃ m, Intact c p q disk m) ∨ Unfound p q disk
  | .required => ∃ m, Intact c p q disk m

theorem defaultsLoad_iff (parameters : KvsParameters) : DefaultsLoad c parameters disk ↔
    ∃ d, KvsBuilder.loadDefaultsMap c parameters disk = .ok d := by
  have hext := parameters.backend.checkPathExtensions_defaults parameters.instanceId
  simp only [DefaultsLoad, ← load_ok_iff hext, ← load_notFound_iff (c := c) hext,
    KvsBuilder.loadDefaultsMap, JsonBackend.loadDefaults]
  cases parameters.defaults with
  | ignored => exact iff_of_true trivial ⟨_, rfl⟩
  | required => rfl
  | optional =>
    generalize JsonBackend.load c _ _ disk = r
    cases r with
    | ok m => exact iff_of_true (.inl ⟨m, rfl⟩) ⟨m, rfl⟩
    | error e => cases e with
      | fileNotFound => exact iff_of_true (.inr rfl) ⟨_, rfl⟩
      | _ =>
        apply iff_of_false
        · rintro (⟨m, hm⟩ | he)
          · cases hm
          · cases he
        · rintro ⟨d, hd⟩
          cases hd

theorem built_first (h : process.pool[self.instanceId]? = some none) :
    self.built c disk process = self.load c disk := by
  have hi : self.instanceId < kvsMaxInstances := (Vector.getElem?_eq_some_iff.1 h).1
  have hlookup : self.lookup process = .ok none := by rw [KvsBuilder.lookup, h]
  cases hload : self.load c disk with
  | error e => simp only [KvsBuilder.built, KvsBuilder.build, hlookup, hload]
  | ok data =>
    simp only [KvsBuilder.built, KvsBuilder.build, hlookup, hload, KvsBuilder.insert, dif_pos hi]
    exact congrArg Except.ok (if_pos rfl)

/-- The defaults that a build loads hide nothing exactly when the hash file is not the only
missing one, nor, where they are optional, the JSON file, unless the slot stops the build with the
error that is due. -/
theorem defaults_hides_iff (hmode : self.parameters.defaults ≠ .ignored) :
    let p := self.parameters.backend.defaultsFilePath self.parameters.instanceId
    let q := self.parameters.backend.defaultsHashFilePath self.parameters.instanceId
    HidesNothing c p q disk True (self.load c disk) KvsData.defaultsMap ↔
      ¬ (disk p ≠ none ∧ disk q = none) ∧
        (self.parameters.defaults = .optional → disk p = none → disk q ≠ none →
          self.parameters.kvsLoad = .required ∧
            Unfound (self.parameters.backend.kvsFilePath self.parameters.instanceId 0)
              (self.parameters.backend.hashFilePath self.parameters.instanceId 0) disk) := by
  intro p q
  have hload : self.load c disk =
      relaxed (self.parameters.defaults = .optional) (JsonBackend.load c p q disk) >>=
        fun defaultsMap => (KvsBuilder.loadKvsMap c self.parameters disk).map
          fun kvsMap => { kvsMap, defaultsMap } := by
    rw [KvsBuilder.load, loadDefaultsMap_eq c disk hmode, JsonBackend.loadDefaults]
    rfl
  rw [hload, hidesNothing_iff (self.parameters.backend.checkPathExtensions_defaults _),
    decide_eq_true_iff, map_error_iff, loadKvsMap_notFound_iff]
  · intro m data hdata
    obtain ⟨kvsMap, -, rfl⟩ := map_ok hdata
    rfl
  · intro m hm
    exact loadKvsMap_ne_hash c disk (map_error_iff.1 hm)

theorem kvs_hides_iff (hmode : self.parameters.kvsLoad ≠ .ignored) :
    let p := self.parameters.backend.kvsFilePath self.parameters.instanceId 0
    let q := self.parameters.backend.hashFilePath self.parameters.instanceId 0
    let reached := DefaultsLoad c self.parameters disk
    HidesNothing c p q disk reached (self.load c disk) KvsData.kvsMap ↔
      (reached → ¬ (disk p ≠ none ∧ disk q = none) ∧
        (self.parameters.kvsLoad = .optional → ¬ (disk p = none ∧ disk q ≠ none))) := by
  intro p q reached
  cases hd : KvsBuilder.loadDefaultsMap c self.parameters disk with
  | error e =>
    have hload : self.load c disk = .error e := by
      rw [KvsBuilder.load, hd]
      rfl
    have hreached : ¬ reached := by
      intro hr
      obtain ⟨d, hok⟩ := (defaultsLoad_iff c disk self.parameters).1 hr
      cases hd.symm.trans hok
    rw [hload]
    apply iff_of_true _ fun hr => absurd hr hreached
    exact hidesNothing_of_loaded (self.parameters.backend.checkPathExtensions_slot _ 0) nofun
      (fun hr => absurd hr hreached) fun hr => absurd hr hreached
  | ok defaultsMap =>
    have hload : self.load c disk =
        relaxed (self.parameters.kvsLoad = .optional) (JsonBackend.load c p q disk) >>=
          fun kvsMap => .ok { kvsMap, defaultsMap } := by
      rw [KvsBuilder.load, hd, loadKvsMap_eq c disk hmode, JsonBackend.loadKvs]
      rfl
    have hreached : reached = True :=
      eq_true ((defaultsLoad_iff c disk self.parameters).2 ⟨defaultsMap, hd⟩)
    rw [hload, hreached, hidesNothing_iff (self.parameters.backend.checkPathExtensions_slot _ 0),
      decide_eq_true_iff]
    · simp only [reduceCtorEq, imp_false, not_and, true_implies]
      rfl
    · rintro m data ⟨⟩
      rfl
    · nofun

end Build

/-- A first build of an instance, in the modes that load: exactly when nothing is hidden. -/
theorem load_modes_iff (c : Crates) (self : KvsBuilder) (disk : Fs)
    (h : process.pool[self.instanceId]? = some none) :
    let parameters := self.parameters
    let built := self.built c disk process
    (parameters.defaults ≠ .ignored →
      let p := parameters.backend.defaultsFilePath parameters.instanceId
      let q := parameters.backend.defaultsHashFilePath parameters.instanceId
      (HidesNothing c p q disk True built KvsData.defaultsMap ↔
        ¬ (disk p ≠ none ∧ disk q = none) ∧
          (parameters.defaults = .optional → disk p = none → disk q ≠ none →
            parameters.kvsLoad = .required ∧
              Unfound (parameters.backend.kvsFilePath parameters.instanceId 0)
                (parameters.backend.hashFilePath parameters.instanceId 0) disk))) ∧
    (parameters.kvsLoad ≠ .ignored →
      let p := parameters.backend.kvsFilePath parameters.instanceId 0
      let q := parameters.backend.hashFilePath parameters.instanceId 0
      let reached := DefaultsLoad c parameters disk
      (HidesNothing c p q disk reached built KvsData.kvsMap ↔
        (reached → ¬ (disk p ≠ none ∧ disk q = none) ∧
          (parameters.kvsLoad = .optional → ¬ (disk p = none ∧ disk q ≠ none))))) := by
  intro parameters built
  have hbuilt : built = self.load c disk := built_first self c disk h
  rw [hbuilt]
  exact ⟨defaults_hides_iff self c disk, kvs_hides_iff self c disk⟩

def sampleBuilder : KvsBuilder := ⟨1, none, none, none⟩

def provided (c : Crates) : Fs := fun p =>
  if p = JsonBackend.default.defaultsFilePath 1 ∨ p = JsonBackend.default.kvsFilePath 1 0 then
    some (utf8 answerText)
  else if p = JsonBackend.default.defaultsHashFilePath 1 ∨
    p = JsonBackend.default.hashFilePath 1 0 then some (hashOf c answerText)
  else none

theorem load_modes_provided : ∃ c : Crates, c.TinyJson ∧
    c.stringify (jsonValueFrom (.ofMap answer)) = some answerText ∧
    let built := sampleBuilder.built c (provided c) .start
    HidesNothing c (JsonBackend.default.defaultsFilePath 1)
        (JsonBackend.default.defaultsHashFilePath 1) (provided c) True built
        KvsData.defaultsMap ∧
      HidesNothing c (JsonBackend.default.kvsFilePath 1 0) (JsonBackend.default.hashFilePath 1 0)
        (provided c) (DefaultsLoad c sampleBuilder.parameters (provided c)) built
        KvsData.kvsMap := by
  obtain ⟨c, hc, -, ht⟩ := exists_crates answer answer_exact.1 answerText
  have hfirst : Process.start.pool[sampleBuilder.instanceId]? = some none := rfl
  obtain ⟨hdefaults, hkvs⟩ := load_modes_iff c sampleBuilder (provided c) hfirst
  have hpath : provided c (JsonBackend.default.defaultsFilePath 1) ≠ none := by
    rw [provided, if_pos (.inl rfl)]
    nofun
  have hpathHash : provided c (JsonBackend.default.defaultsHashFilePath 1) ≠ none := by
    rw [provided, if_neg, if_pos (.inl rfl)]
    · nofun
    · exact not_or.2 ⟨(JsonBackend.default.defaults_ne 1).symm,
        (JsonBackend.default.kvsFilePath_ne_defaults 1 0).2.symm⟩
  have hslot : provided c (JsonBackend.default.kvsFilePath 1 0) ≠ none := by
    rw [provided, if_pos (.inr rfl)]
    nofun
  have hslotHash : provided c (JsonBackend.default.hashFilePath 1 0) ≠ none := by
    rw [provided, if_neg, if_pos (.inr rfl)]
    · nofun
    · exact not_or.2 ⟨(JsonBackend.default.hashFilePath_ne_defaults 1 0).1,
        (JsonBackend.default.families 1).disjoint 0 0⟩
  refine ⟨c, hc, ht, (hdefaults nofun).2 ?_, (hkvs nofun).2 ?_⟩
  · exact ⟨fun h => hpathHash h.2, fun _ h => absurd h hpath⟩
  · exact fun _ => ⟨fun h => hslotHash h.2, fun _ h => hslot h.1⟩

def unhashed : Fs := fun p =>
  if p = JsonBackend.default.kvsFilePath 1 0 then some (utf8 answerText) else none

/-- A stored map is taken for an empty one when only its hash file is missing. -/
theorem load_modes_hidden : ∃ c : Crates, c.TinyJson ∧
    c.stringify (jsonValueFrom (.ofMap answer)) = some answerText ∧
    sampleBuilder.built c unhashed .start = .ok ⟨.empty, .empty⟩ ∧
    ¬ HidesNothing c (JsonBackend.default.kvsFilePath 1 0) (JsonBackend.default.hashFilePath 1 0)
      unhashed (DefaultsLoad c sampleBuilder.parameters unhashed)
      (sampleBuilder.built c unhashed .start) KvsData.kvsMap := by
  obtain ⟨c, hc, -, ht⟩ := exists_crates answer answer_exact.1 answerText
  have hf := JsonBackend.default.families 1
  have hkvs : unhashed (JsonBackend.default.kvsFilePath 1 0) = some (utf8 answerText) := if_pos rfl
  have hhash : unhashed (JsonBackend.default.hashFilePath 1 0) = none :=
    if_neg (hf.disjoint 0 0)
  have hdefaults : unhashed (JsonBackend.default.defaultsFilePath 1) = none :=
    if_neg (JsonBackend.default.kvsFilePath_ne_defaults 1 0).1.symm
  have hreached : KvsBuilder.loadDefaultsMap c sampleBuilder.parameters unhashed = .ok .empty := by
    have hload : JsonBackend.default.loadDefaults c 1 unhashed = .error .fileNotFound :=
      load_missing (JsonBackend.default.checkPathExtensions_defaults 1) hdefaults
    rw [loadDefaultsMap_eq c unhashed (by decide)]
    exact congrArg (relaxed true) hload
  have hloaded : KvsBuilder.loadKvsMap c sampleBuilder.parameters unhashed = .ok .empty := by
    have hload : JsonBackend.default.loadKvs c 1 0 unhashed = .error .fileNotFound :=
      load_unhashed (JsonBackend.default.checkPathExtensions_slot 1 0) hkvs hhash
    rw [loadKvsMap_eq c unhashed (by decide)]
    exact congrArg (relaxed true) hload
  have hbuilt : sampleBuilder.built c unhashed .start = .ok ⟨.empty, .empty⟩ := by
    have hfirst : Process.start.pool[sampleBuilder.instanceId]? = some none := rfl
    rw [built_first sampleBuilder c unhashed hfirst, KvsBuilder.load, hreached]
    simp only [hloaded, bind, Except.bind]
    rfl
  have hreaches := (defaultsLoad_iff c unhashed sampleBuilder.parameters).2 ⟨_, hreached⟩
  refine ⟨c, hc, ht, hbuilt, fun h => ?_⟩
  have herror := h.hashMissing hreaches (by rw [hkvs]; nofun) hhash
  rw [hbuilt] at herror
  cases herror

end Persistency.Rust
