import Persistency.Rust.Codec

namespace Persistency.Rust
set_option autoImplicit true

/-- The slots of the instance load as the listed maps. -/
structure Keeps (c : Crates) (backend : JsonBackend) (i : InstanceId) (hist : List KvsMap)
    (disk : Fs) : Prop where
  texts : ∃ texts, Slots c backend i texts disk ∧
    List.Forall₂ (fun text m => decodeText c text = .ok m) texts hist
  bound : hist.length ≤ backend.snapshotMaxCount

namespace Keeps

variable {c : Crates} {backend : JsonBackend} {i : InstanceId} {hist : List KvsMap} {disk : Fs}

theorem empty (hkvs : ∀ s, disk (backend.kvsFilePath i s) = none)
    (hhash : ∀ s, disk (backend.hashFilePath i s) = none) : Keeps c backend i [] disk where
  texts := ⟨[], ⟨hkvs, hhash⟩, .nil⟩
  bound := Nat.zero_le _

theorem loadKvs_some (h : Keeps c backend i hist disk) (hs : hist[s]? = some m) :
    backend.loadKvs c i s disk = .ok m := by
  obtain ⟨texts, hslots, hall⟩ := h.texts
  obtain ⟨hlt, rfl⟩ := List.getElem?_eq_some_iff.1 hs
  have hlt' : s < texts.length := hall.length_eq ▸ hlt
  rw [hslots.loadKvs_some (List.getElem?_eq_getElem hlt')]
  exact hall.get hlt' hlt

theorem loadKvs_none (h : Keeps c backend i hist disk) (hs : hist[s]? = none) :
    backend.loadKvs c i s disk = .error .fileNotFound := by
  obtain ⟨texts, hslots, hall⟩ := h.texts
  apply hslots.loadKvs_none
  rw [List.getElem?_eq_none_iff] at hs ⊢
  rwa [hall.length_eq]

theorem kvs_none (h : Keeps c backend i hist disk) (hk : hist.length ≤ k) :
    disk (backend.kvsFilePath i k) = none := by
  obtain ⟨texts, hslots, hall⟩ := h.texts
  rw [hslots.kvs, List.getElem?_eq_none (hall.length_eq ▸ hk), Option.map_none]

theorem snapshotCount (h : Keeps c backend i hist disk) :
    backend.snapshotCount i disk = hist.length := by
  obtain ⟨texts, hslots, hall⟩ := h.texts
  rw [hslots.snapshotCount_eq, hall.length_eq]
  exact Nat.min_eq_right h.bound

theorem flush_finite (h : Keeps c backend i hist disk) (hc : c.TinyJson)
    (hm : (KvsValue.ofMap m).Finite) (hmax : 0 < backend.snapshotMaxCount) :
    ((backend.flush c i m).run disk).1 = .ok () ∧
      Keeps c backend i ((decoded m :: hist).take backend.snapshotMaxCount)
        ((backend.flush c i m).run disk).2 := by
  obtain ⟨texts, hslots, hall⟩ := h.texts
  obtain ⟨text, ht, hd⟩ := hc.text hm
  have hlen : texts.length ≤ backend.snapshotMaxCount := hall.length_eq ▸ h.bound
  have hbound : ((decoded m :: hist).take backend.snapshotMaxCount).length ≤
      backend.snapshotMaxCount := by
    rw [List.length_take]
    exact Nat.min_le_left _ _
  rw [Disk.Prog.run, hslots.flush_ok ht]
  exact ⟨rfl, ⟨_, hslots.flushed hlen hmax text, List.forall₂_take _ (.cons hd hall)⟩, hbound⟩

theorem flush (h : Keeps c backend i hist disk) (hc : c.TinyJson)
    (hm : JsonExact (.ofMap m)) (hmax : 0 < backend.snapshotMaxCount) :
    ((backend.flush c i m).run disk).1 = .ok () ∧
      Keeps c backend i ((m :: hist).take backend.snapshotMaxCount)
        ((backend.flush c i m).run disk).2 := by
  have hf := h.flush_finite hc hm.1 hmax
  rwa [decoded_eq m hm.2] at hf

theorem flush_refused (h : Keeps c backend i hist disk) (hc : c.TinyJson)
    (hm : ¬ (KvsValue.ofMap m).Finite) :
    (backend.flush c i m).run disk =
      (.error .jsonGeneratorError, Disk.replay disk
        (renames backend i (min hist.length (backend.snapshotMaxCount - 1)))) := by
  obtain ⟨texts, hslots, hall⟩ := h.texts
  rw [Disk.Prog.run, hslots.flush_refused (hc.refused hm), hall.length_eq]

theorem flush_journal (h : Keeps c backend i hist disk) (hc : c.TinyJson) (m : KvsMap) :
    ∃ rest, (backend.flush c i m disk).2 =
        renames backend i (min hist.length (backend.snapshotMaxCount - 1)) ++ rest ∧
      (¬ (KvsValue.ofMap m).Finite ∧ rest = [] ∨
        (KvsValue.ofMap m).Finite ∧
          ∃ text, rest = slotSteps c backend i text ∧ decodeText c text = .ok (decoded m) ∧
            c.stringify (jsonValueFrom (.ofMap m)) = some text) := by
  obtain ⟨texts, hslots, hall⟩ := h.texts
  by_cases hm : (KvsValue.ofMap m).Finite
  · obtain ⟨text, ht, hd⟩ := hc.text hm
    rw [hslots.flush_ok ht, hall.length_eq]
    exact ⟨_, rfl, .inr ⟨hm, text, rfl, hd, ht⟩⟩
  · rw [hslots.flush_refused (hc.refused hm), hall.length_eq]
    exact ⟨[], (List.append_nil _).symm, .inl ⟨hm, rfl⟩⟩

theorem snapshotRestore_ok (h : Keeps c backend i hist disk) (h1 : 1 ≤ snapshotId)
    (hid : snapshotId < hist.length) :
    backend.snapshotRestore c i snapshotId disk = .ok (hist.get ⟨snapshotId, hid⟩) := by
  rw [JsonBackend.snapshotRestore, h.snapshotCount, if_neg (Nat.ne_of_gt h1),
    if_neg (Nat.not_lt.2 (Nat.le_of_lt hid))]
  exact h.loadKvs_some (List.getElem?_eq_getElem hid)

theorem snapshotRestore_error (h : Keeps c backend i hist disk)
    (hid : ¬ (1 ≤ snapshotId ∧ snapshotId < hist.length)) :
    ∃ e, backend.snapshotRestore c i snapshotId disk = .error e := by
  rw [JsonBackend.snapshotRestore, h.snapshotCount]
  by_cases h0 : snapshotId = 0
  · exact ⟨_, if_pos h0⟩
  · rw [if_neg h0]
    split
    · exact ⟨_, rfl⟩
    · refine ⟨_, h.loadKvs_none (s := snapshotId) ?_⟩
      rw [List.getElem?_eq_none_iff]
      exact Nat.not_lt.1 fun hlt => hid ⟨Nat.pos_of_ne_zero h0, hlt⟩

end Keeps

end Persistency.Rust
