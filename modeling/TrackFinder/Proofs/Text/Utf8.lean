import TrackFinder.Text.Utf8

/-! Encoding and decoding undo each other, and a text whose bytes end in those of another ends in
that text. -/
namespace TrackFinder.Utf8

variable {s t : String} {c : Char} {b : UInt8} {bytes : List UInt8}

theorem toByteArray_encode (s : String) : (encode s).toByteArray = s.toByteArray := by
  rw [← String.utf8Encode_toList]
  rfl

theorem toByteArray_injective {xs ys : List UInt8} (h : xs.toByteArray = ys.toByteArray) :
    xs = ys := by
  have hd := congrArg (fun b => b.data.toList) h
  simpa using hd

theorem decode?_eq_some : decode? bytes = some s ↔ encode s = bytes := by
  constructor
  · intro h
    simp only [decode?, String.fromUTF8?] at h
    split at h
    · cases h
      exact toByteArray_injective (toByteArray_encode _)
    · cases h
  · rintro rfl
    have hv : (encode s).toByteArray.IsValidUTF8 := by
      rw [toByteArray_encode]
      exact s.isValidUTF8
    simp only [decode?, String.fromUTF8?, dif_pos hv, Option.some.injEq]
    exact String.toByteArray_inj.mp (toByteArray_encode s)

theorem encode_injective : Function.Injective encode := by
  intro a b h
  have ha := decode?_eq_some.mpr h
  rw [decode?_eq_some.mpr rfl] at ha
  exact (Option.some.inj ha).symm

@[simp] theorem encode_empty : encode "" = [] := rfl

@[simp] theorem encode_append (s t : String) : encode (s ++ t) = encode s ++ encode t := by
  simp [encode]

theorem encode_ofList (cs : List Char) :
    encode (String.ofList cs) = cs.flatMap String.utf8EncodeChar := by
  rw [encode, String.toList_ofList]

/-- A byte that only follows others. -/
def IsTail (b : UInt8) : Prop := 128 ≤ b.toNat ∧ b.toNat < 192

theorem isTail_ofNat (n : Nat) : IsTail (UInt8.ofNat (n % 64 + 128)) := by
  simp only [IsTail, UInt8.toNat_ofNat']
  omega

theorem encodeChar_ascii (h : c.toNat < 128) :
    String.utf8EncodeChar c = [UInt8.ofNat c.toNat] :=
  if_pos (Nat.le_of_lt_succ h)

/-- Beyond ASCII a lead byte stands before bytes that only follow others. -/
theorem encodeChar_wide (h : 128 ≤ c.toNat) :
    ∃ lead tail, String.utf8EncodeChar c = lead :: tail ∧ 192 ≤ lead.toNat ∧
      ∀ b ∈ tail, IsTail b := by
  fun_cases String.utf8EncodeChar c with
  | case1 v hv =>
    have hc : v = c.toNat := rfl
    omega
  | case2 v | case3 v | case4 v =>
    refine ⟨_, _, rfl, ?_, ?_⟩
    · simp only [UInt8.toNat_ofNat']
      omega
    · intro b hb
      simp only [List.mem_cons, List.not_mem_nil, or_false] at hb
      rcases hb with rfl | rfl | rfl <;> exact isTail_ofNat _

theorem encodeChar_head (c : Char) :
    ∃ lead tail, String.utf8EncodeChar c = lead :: tail ∧ ¬ IsTail lead ∧
      ∀ b ∈ tail, IsTail b := by
  by_cases h : c.toNat < 128
  · refine ⟨_, [], encodeChar_ascii h, ?_, by simp⟩
    simp only [IsTail, UInt8.toNat_ofNat']
    omega
  · obtain ⟨lead, tail, he, hlead, htail⟩ := encodeChar_wide (Nat.le_of_not_lt h)
    refine ⟨lead, tail, he, ?_, htail⟩
    intro ht
    have := ht.2
    omega

theorem encode_head (h : s ≠ "") : ∃ lead rest, encode s = lead :: rest ∧ ¬ IsTail lead := by
  cases hs : s.toList with
  | nil => exact absurd (String.toList_eq_nil_iff.mp hs) h
  | cons c cs =>
    obtain ⟨lead, tail, he, hlead, -⟩ := encodeChar_head c
    exact ⟨lead, tail ++ cs.flatMap String.utf8EncodeChar, by simp [encode, hs, he], hlead⟩

theorem eq_of_mem_encodeChar (hb : b ∈ String.utf8EncodeChar c) (hlt : b.toNat < 128) :
    c.toNat = b.toNat := by
  by_cases h : c.toNat < 128
  · rw [encodeChar_ascii h, List.mem_singleton] at hb
    subst hb
    simp only [UInt8.toNat_ofNat']
    omega
  · obtain ⟨lead, tail, he, hlead, htail⟩ := encodeChar_wide (Nat.le_of_not_lt h)
    rw [he, List.mem_cons] at hb
    rcases hb with rfl | hb
    · omega
    · have := (htail b hb).1
      omega

/-- An ASCII character occurs in a text where its byte does. -/
theorem mem_encode (hc : c.toNat < 128) : UInt8.ofNat c.toNat ∈ encode s ↔ c ∈ s.toList := by
  have hn : (UInt8.ofNat c.toNat).toNat = c.toNat := by
    simp only [UInt8.toNat_ofNat']
    omega
  simp only [encode, List.mem_flatMap]
  constructor
  · rintro ⟨d, hd, hb⟩
    have he := eq_of_mem_encodeChar hb (by omega)
    rw [hn] at he
    rwa [← Char.toNat_inj.mp he]
  · intro h
    exact ⟨c, h, by rw [encodeChar_ascii hc]; exact List.mem_singleton_self _⟩

/-- No character begins within the bytes of another, so the bytes of `t` at the end of a text are
the text `t`. -/
theorem eq_append_of_encode (h : encode s = bytes ++ encode t) :
    ∃ front, s = front ++ t ∧ encode front = bytes := by
  by_cases ht : t = ""
  · subst ht
    exact ⟨s, by simp, by simpa using h⟩
  obtain ⟨lead, rest, hlead, hno⟩ := encode_head ht
  obtain ⟨cs, rfl⟩ : ∃ cs, s = String.ofList cs := ⟨s.toList, String.ofList_toList.symm⟩
  induction cs generalizing bytes with
  | nil => simp [hlead] at h
  | cons c cs ih =>
    cases bytes with
    | nil => exact ⟨"", by simpa using encode_injective h, rfl⟩
    | cons b bytes =>
      obtain ⟨first, tail, he, -, htail⟩ := encodeChar_head c
      have hcs : encode (String.ofList (c :: cs)) =
          first :: (tail ++ encode (String.ofList cs)) := by
        rw [encode_ofList, encode_ofList, List.flatMap_cons, he, List.cons_append]
      rw [hcs, List.cons_append, List.cons.injEq] at h
      obtain ⟨rfl, h⟩ := h
      obtain ⟨more, rfl, hmore⟩ :
          ∃ more, bytes = tail ++ more ∧ encode (String.ofList cs) = more ++ encode t := by
        obtain ⟨more, hb, hm⟩ | ⟨more, hb, hm⟩ := List.append_eq_append_iff.mp h
        · exact ⟨more, hb, hm⟩
        · cases more with
          | nil => exact ⟨[], by simpa using hb.symm, by simpa using hm.symm⟩
          | cons x more =>
            rw [hlead, List.cons_append, List.cons.injEq] at hm
            obtain ⟨rfl, -⟩ := hm
            exact (hno (htail lead (by simp [hb]))).elim
      obtain ⟨front, hfront, hbytes⟩ := ih hmore
      refine ⟨String.singleton c ++ front, ?_, ?_⟩
      · rw [String.append_assoc, ← hfront, ← String.toList_inj]
        simp
      · rw [encode_append, hbytes]
        simp [encode, he]

end TrackFinder.Utf8
