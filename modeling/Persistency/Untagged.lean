import Persistency.Rust.Store
import Persistency.Cpp.Slots

namespace Persistency.Untagged
set_option autoImplicit true

open Rust

/-- The document of a map. -/
def document (m : KvsMap) : JsonValue := .ofMap (m.mapVal jsonValueFrom)

theorem tagged_ne_string (v : KvsValue) (s : String) : jsonValueFrom v ≠ .string s := by
  cases v <;> nofun

theorem kvsValueFrom_document (h : IntegersFit (.ofMap m)) :
    kvsValueFrom (document m) = .ofMap ((m.remove "t").remove "v") := by
  rw [document, kvsValueFrom_untagged]
  · congr 1
    apply FiniteMap.ext_get?
    intro k
    simp only [FiniteMap.get?_mapVal, FiniteMap.get?_remove]
    split
    · rfl
    · split
      · rfl
      · cases hv : m.get? k with
        | none => rfl
        | some v =>
          exact congrArg some (roundTrip v ((integersFit_ofMap m).1 h k v hv))
  · intro s hs
    rw [FiniteMap.get?_mapVal, Option.map_eq_some_iff] at hs
    obtain ⟨v, -, hv⟩ := hs
    exact tagged_ne_string v s hv

theorem remove_keys_iff (m : KvsMap) :
    ((m.remove "t").remove "v").keys = m.keys ↔ "t" ∉ m.keys ∧ "v" ∉ m.keys := by
  simp only [FiniteMap.remove_keys]
  apply Iff.intro
  · intro h
    rw [← h]
    simp only [Finset.mem_erase, ne_eq, String.reduceEq, not_true_eq_false, not_false_eq_true,
      false_and, and_false, and_self]
  · rintro ⟨ht, hv⟩
    rw [Finset.erase_eq_of_notMem ht, Finset.erase_eq_of_notMem hv]

theorem kvsValueFrom_document_iff (h : IntegersFit (.ofMap m)) :
    kvsValueFrom (document m) = .ofMap m ↔ "t" ∉ m.keys ∧ "v" ∉ m.keys := by
  rw [kvsValueFrom_document h, KvsValue.ofMap_injective.eq_iff, ← remove_keys_iff]
  apply Iff.intro
  · exact congrArg FiniteMap.keys
  · intro hkeys
    obtain ⟨ht, hv⟩ := (remove_keys_iff m).1 hkeys
    rw [m.remove_of_notMem ht, m.remove_of_notMem hv]

/-- A text that both parsers read as the document of a map. -/
structure Document (c : Crates) (base : Cpp.Baselibs N) (m : KvsMap) (text : String) : Prop where
  rust : c.parse text = some (document m)
  cpp : ∃ root, Cpp.Kvs.rootObj base m = .ok root ∧
    base.fromBuffer (utf8 text) = some (.ofMap root)

theorem Document.decodeText {c : Crates} {base : Cpp.Baselibs N} (h : Document c base m text)
    (hm : IntegersFit (.ofMap m)) :
    decodeText c text = .ok ((m.remove "t").remove "v") := by
  simp only [Rust.decodeText, h.rust, kvsValueFrom_document hm]
  rfl

theorem Document.parseJsonData {c : Crates} {base : Cpp.Baselibs N} (h : Document c base m text)
    (hnum : base.number.Lawful) : Cpp.parseJsonData base (utf8 text) = .ok m := by
  obtain ⟨root, hroot, hparse⟩ := h.cpp
  exact Cpp.parseJsonData_rootObj hnum hroot hparse

/-- The document of a map is read as that map, and with the keys that the C++ store finds in it,
exactly when neither `t` nor `v` is a key. -/
theorem untagged_iff (m : KvsMap) (hm : JsonExact (.ofMap m)) :
    (kvsValueFrom (document m) = .ofMap m ↔ "t" ∉ m.keys ∧ "v" ∉ m.keys) ∧
    ∀ (N : Type) (c : Crates) (base : Cpp.Baselibs N) (text : String) (p q : Path) (disk : Fs),
      Document c base m text → base.number.Lawful →
      JsonBackend.checkPathExtensions p q = .ok () →
      disk p = some (utf8 text) → disk q = some (hashOf c text) →
      ∃ m₁ m₂, JsonBackend.load c p q disk = .ok m₁ ∧
        Cpp.parseJsonData base (utf8 text) = .ok m₂ ∧
        (m₁.keys = m₂.keys ↔ "t" ∉ m.keys ∧ "v" ∉ m.keys) := by
  refine ⟨kvsValueFrom_document_iff hm.2, ?_⟩
  intro N c base text p q disk hdoc hnum hext hp hq
  have hload := load_pair hext hp hq
  rw [hdoc.decodeText hm.2] at hload
  exact ⟨(m.remove "t").remove "v", m, hload, hdoc.parseJsonData hnum, remove_keys_iff m⟩

theorem exists_document (m : KvsMap) (hm : (KvsValue.ofMap m).Finite) (text : String) :
    ∃ (c : Crates) (base : Cpp.Baselibs (Int ⊕ Binary64)), c.TinyJson ∧ base.Lawful ∧
      Document c base m text := by
  have hfinite : (document m).Numbers Binary64.IsFinite := by
    rw [document, Json.numbers_ofMap]
    intro k j hj
    rw [FiniteMap.get?_mapVal, Option.map_eq_some_iff] at hj
    obtain ⟨v, hv, rfl⟩ := hj
    exact (jsonValueFrom_finite v).2 ((KvsValue.floats_ofMap _ m).1 hm k v hv)
  obtain ⟨c, hc, -, -, hparse⟩ := exists_crates_tree (document m) hfinite text
  obtain ⟨write, read, hbase, -, hbuf⟩ := Cpp.exists_baselibs m text
  obtain ⟨root, hroot, ht⟩ := Cpp.buffer_ok hbuf
  exact ⟨c, _, hc, hbase, hparse, root, hroot, hbase.fromBuffer m root _ hroot ht⟩

theorem untagged_answer : ∃ (c : Crates) (base : Cpp.Baselibs (Int ⊕ Binary64)),
    Document c base answer Cpp.answerText ∧ kvsValueFrom (document answer) = .ofMap answer ∧
    ∃ m₁ m₂, JsonBackend.default.loadDefaults c 1
        (deploy c .default 1 (some Cpp.answerText) fun _ => none) = .ok m₁ ∧
      Cpp.parseJsonData base (utf8 Cpp.answerText) = .ok m₂ ∧ m₁.keys = m₂.keys := by
  obtain ⟨c, base, -, hbase, hdoc⟩ := exists_document answer answer_exact.1 Cpp.answerText
  obtain ⟨hdecode, hload⟩ := untagged_iff answer answer_exact
  have hkeys : "t" ∉ answer.keys ∧ "v" ∉ answer.keys := by decide
  obtain ⟨m₁, m₂, h₁, h₂, heq⟩ := hload _ c base Cpp.answerText
    (JsonBackend.default.defaultsFilePath 1) (JsonBackend.default.defaultsHashFilePath 1)
    (deploy c .default 1 (some Cpp.answerText) fun _ => none) hdoc hbase.number
    (JsonBackend.default.checkPathExtensions_defaults 1) (if_pos rfl)
    ((if_neg (JsonBackend.default.defaults_ne 1).symm).trans (if_pos rfl))
  exact ⟨c, base, hdoc, hdecode.2 hkeys, m₁, m₂, h₁, h₂, heq.2 hkeys⟩

/-- The map whose only key is `t` is read as the empty map. -/
theorem untagged_t : JsonExact (.ofMap (.insert .empty "t" (.i32 1))) ∧
    kvsValueFrom (document (.insert .empty "t" (.i32 1))) ≠
      .ofMap (.insert .empty "t" (.i32 1)) := by
  have hexact : JsonExact (.ofMap (.insert .empty "t" (.i32 1))) :=
    jsonExact_empty.insert (v := .i32 1) ⟨trivial, trivial⟩ "t"
  refine ⟨hexact, ?_⟩
  rw [ne_eq, kvsValueFrom_document_iff hexact.2]
  intro h
  exact h.1 (Finset.mem_insert_self "t" _)

end Persistency.Untagged
