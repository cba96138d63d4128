import Persistency.Cpp.Integrity
import Persistency.Rust.Codec

namespace Persistency.HashFile
set_option autoImplicit true

/-- The hash file holds more than the checksum, or the checksum without some zeros at its end. -/
def Torn (d h : Cpp.Bytes) : Prop :=
  (∃ extra, extra ≠ [] ∧ h = Cpp.getHashBytes d ++ extra) ∨
    ∃ n, 0 < n ∧ Cpp.getHashBytes d = h ++ List.replicate n 0

theorem checkHash_iff (d h : Cpp.Bytes) :
    Cpp.checkHash d h = true ↔ h = Cpp.getHashBytes d ∨ Torn d h := by
  rw [Cpp.checkHash, beq_iff_eq, eq_comm]
  exact BigEndian.read_eq_iff h _

theorem not_torn_getHashBytes (d : Cpp.Bytes) : ¬ Torn d (Cpp.getHashBytes d) := by
  rintro (⟨extra, hne, h⟩ | ⟨n, hn, h⟩)
  · exact hne (List.self_eq_append_right.1 h)
  · have hlen := congrArg List.length h
    rw [List.length_append, List.length_replicate] at hlen
    omega

theorem load_valid_iff {c : Rust.Crates} (hc : c.adler32 = Adler32.checksum)
    (hext : Rust.JsonBackend.checkPathExtensions p q = .ok ()) (hp : disk p = some (utf8 text))
    (hq : disk q = some h) :
    Rust.JsonBackend.load c p q disk ≠ .error .validationFailed ↔
      h = Cpp.getHashBytes (utf8 text) := by
  have hchecksum : Cpp.getHashBytes (utf8 text) = BigEndian.toBytes (c.adler32 (utf8 text)) := by
    rw [Cpp.getHashBytes, Cpp.getHashBytesAdler32, Cpp.calculateHashAdler32_eq, hc]
  rw [hchecksum]
  simp only [Rust.JsonBackend.load, hext, Rust.fsReadToString_text hp, Rust.fsRead, hq, bind,
    Except.bind]
  split
  · rename_i b₀ b₁ b₂ b₃
    have hbytes : [b₀, b₁, b₂, b₃] = BigEndian.toBytes (c.adler32 (utf8 text)) ↔
        c.adler32 (utf8 text) = BigEndian.ofBytes b₀ b₁ b₂ b₃ := by
      rw [← BigEndian.toBytes_ofBytes, BigEndian.toBytes_injective.eq_iff]
      exact eq_comm
    split
    · rename_i hne
      exact iff_of_false (fun hno => hno rfl) fun h => hne (hbytes.1 h)
    · rename_i heq
      apply iff_of_true _ (hbytes.2 (not_not.1 heq))
      cases c.parse text with
      | none => exact fun h => by cases h
      | some j =>
        dsimp only
        split
        · exact fun h => by cases h
        · exact fun h => by cases h
  · rename_i hlen
    exact iff_of_false (fun hno => hno rfl) (hlen _ _ _ _)

/-- The C++ store accepts the checksum only, exactly for the hash files that are not torn; the
Rust store does so for all. -/
theorem hash_accepted_iff (d h : Cpp.Bytes) :
    ((Cpp.checkHash d h = true ↔ h = Cpp.getHashBytes d) ↔ ¬ Torn d h) ∧
    ∀ (c : Rust.Crates) (p q : Rust.Path) (disk : Rust.Fs) (text : String),
      c.adler32 = Adler32.checksum → Rust.JsonBackend.checkPathExtensions p q = .ok () →
      utf8 text = d → disk p = some d → disk q = some h →
      (Rust.JsonBackend.load c p q disk ≠ .error .validationFailed ↔ h = Cpp.getHashBytes d) := by
  apply And.intro
  · rw [checkHash_iff]
    apply Iff.intro
    · intro hiff htorn
      exact not_torn_getHashBytes d (hiff.1 (.inr htorn) ▸ htorn)
    · intro hno
      exact ⟨fun hacc => hacc.resolve_right hno, .inl⟩
  · rintro c p q disk text hc hext rfl hp hq
    exact load_valid_iff hc hext hp hq

theorem hash_accepted_object : ∃ (c : Rust.Crates) (disk : Rust.Fs),
    disk (Rust.JsonBackend.default.kvsFilePath 1 0) = some (utf8 "\x7b\x7d") ∧
    disk (Rust.JsonBackend.default.hashFilePath 1 0) = some [1, 117, 0, 249] ∧
    Cpp.checkHash (utf8 "\x7b\x7d") [1, 117, 0, 249] = true ∧
    Rust.JsonBackend.load c (Rust.JsonBackend.default.kvsFilePath 1 0)
      (Rust.JsonBackend.default.hashFilePath 1 0) disk ≠ .error .validationFailed := by
  obtain ⟨c, -, hc, -⟩ := Rust.exists_crates answer Rust.answer_exact.1 Rust.answerText
  have hbytes : [1, 117, 0, 249] = Cpp.getHashBytes (utf8 "\x7b\x7d") := by decide +kernel
  obtain ⟨hiff, hload⟩ := hash_accepted_iff (utf8 "\x7b\x7d") [1, 117, 0, 249]
  have hchecked := (hiff.2 (hbytes ▸ not_torn_getHashBytes _)).2 hbytes
  let disk : Rust.Fs := fun p =>
    if p = Rust.JsonBackend.default.kvsFilePath 1 0 then some (utf8 "\x7b\x7d")
    else some [1, 117, 0, 249]
  have hvalid := (hload c _ (Rust.JsonBackend.default.hashFilePath 1 0) disk "\x7b\x7d" hc
    (Rust.JsonBackend.default.checkPathExtensions_slot 1 0) rfl (if_pos rfl)
    (if_neg (by decide))).2 hbytes
  exact ⟨c, disk, if_pos rfl, if_neg (by decide), hchecked, hvalid⟩

/-- A hash file with a newline behind the checksum, and one that has lost its last byte, a zero. -/
theorem hash_torn_accepted :
    ¬ (Cpp.checkHash (utf8 "\x7b\x7d") [1, 117, 0, 249, 10] = true ↔
      [1, 117, 0, 249, 10] = Cpp.getHashBytes (utf8 "\x7b\x7d")) ∧
    ¬ (Cpp.checkHash (utf8 "\"Za\"") [2, 126, 1] = true ↔
      [2, 126, 1] = Cpp.getHashBytes (utf8 "\"Za\"")) := by
  decide +kernel

end Persistency.HashFile
