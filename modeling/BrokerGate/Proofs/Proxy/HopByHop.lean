import BrokerGate.Proofs.Http.Field
import BrokerGate.Proofs.Text.Split
import BrokerGate.Proxy.Forward

/-! Which fields stripping takes out. What a `Connection` value lists is said over its bytes, so
that it is said of every value; stripping goes by the values that can be read as text. -/
namespace BrokerGate.Proxy
open Text Utf8 Http

/-- Between commas (44) or the ends of the value, up to spaces (32) and tabs (9) around it, stands
the name. -/
def Lists (v : FieldValue) (n : FieldName) : Prop :=
  ∃ front lead name trail back : Bytes, v.bytes = front ++ (lead ++ name ++ trail) ++ back ∧
    (∀ b ∈ front.getLast?, b = 44) ∧ (∀ b ∈ back.head?, b = 44) ∧
    (∀ b ∈ lead ++ trail, b = 32 ∨ b = 9) ∧ FieldName.ofBytes? name = some n

/-- A `Connection` value lists the name. -/
def Listed (fs : Fields) (n : FieldName) : Prop := ∃ v ∈ fs.values .connection, Lists v n

/-- A `Connection` value of visible ASCII and tabs lists the name. -/
def ReadablyListed (fs : Fields) (n : FieldName) : Prop :=
  ∃ v ∈ fs.values .connection, v.isReadable = true ∧ Lists v n

section Member
variable {lead name trail : Bytes} {n : FieldName}

theorem blank_byte {b : UInt8} (h : b = 32 ∨ b = 9) :
    isBlank (Char.ofNat b.toNat) = true ∧ Char.ofNat b.toNat ≠ ',' := by
  rcases h with rfl | rfl <;> decide

theorem token_byte {b : UInt8} : isTokenByte b = true →
    isBlank (Char.ofNat b.toNat) = false ∧ Char.ofNat b.toNat ≠ ',' ∧ b.toNat < 128 :=
  forall_byte (p := fun b => isTokenByte b = true →
    isBlank (Char.ofNat b.toNat) = false ∧ Char.ofNat b.toNat ≠ ',' ∧ b.toNat < 128)
    (by decide +kernel) b

theorem encode_trimBlank (hblank : ∀ b ∈ lead ++ trail, b = 32 ∨ b = 9)
    (hname : FieldName.ofBytes? name = some n) :
    encode (trimBlank ((lead ++ name ++ trail).map fun b => Char.ofNat b.toNat)) = name := by
  obtain ⟨hne, htoken⟩ := FieldName.ofBytes?_eq_some hname
  have htrim : trimBlank ((lead ++ name ++ trail).map fun b => Char.ofNat b.toNat) =
      name.map fun b => Char.ofNat b.toNat := by
    rw [trimBlank, List.map_append, List.map_append]
    apply trimBy_append
    · exact List.forall_mem_map.mpr fun b hb => (blank_byte (hblank b (by simp [hb]))).1
    · exact List.forall_mem_map.mpr fun b hb => (blank_byte (hblank b (by simp [hb]))).1
    · exact List.forall_mem_map.mpr fun b hb => (token_byte (htoken b hb)).1
    · simpa using hne
  rw [htrim, encode_ofNat fun b hb => (token_byte (htoken b hb)).2.2]

theorem comma_notMem_member (hblank : ∀ b ∈ lead ++ trail, b = 32 ∨ b = 9)
    (hname : FieldName.ofBytes? name = some n) :
    ',' ∉ (lead ++ name ++ trail).map fun b => Char.ofNat b.toNat := by
  intro hc
  obtain ⟨b, hb, hcomma⟩ := List.mem_map.mp hc
  rcases List.mem_append.mp hb with hb | hb
  · rcases List.mem_append.mp hb with hb | hb
    · exact (blank_byte (hblank b (List.mem_append_left _ hb))).2 hcomma
    · exact (token_byte ((FieldName.ofBytes?_eq_some hname).2 b hb)).2.1 hcomma
  · exact (blank_byte (hblank b (List.mem_append_right _ hb))).2 hcomma

end Member

section Readable
variable {v : FieldValue} {n : FieldName} {cs : List Char}

theorem readable_byte {b : UInt8} : FieldValue.isReadableByte b = true →
    (Char.ofNat b.toNat = ',' → b = 44) ∧
      (isBlank (Char.ofNat b.toNat) = true → b = 32 ∨ b = 9) :=
  forall_byte (p := fun b => FieldValue.isReadableByte b = true →
    (Char.ofNat b.toNat = ',' → b = 44) ∧
      (isBlank (Char.ofNat b.toNat) = true → b = 32 ∨ b = 9)) (by decide +kernel) b

theorem lists_of_mem_listedIn (h : v.text? = some cs) (hn : n ∈ listedIn cs) : Lists v n := by
  obtain ⟨hr, rfl⟩ := FieldValue.text?_eq_some_iff.mp h
  have hread := FieldValue.isReadable_iff.mp hr
  obtain ⟨member, hmember, hname⟩ := List.mem_filterMap.mp hn
  obtain ⟨-, a, z, hsplit, ha, hz⟩ := mem_pieces_iff.mp hmember
  obtain ⟨l, r, htrim, hblank⟩ := exists_trimBy isBlank member
  -- The cuts of the text are cuts of the bytes at the same places.
  obtain ⟨rest, back, hbytes, hrest, rfl⟩ := List.map_eq_append_iff.mp hsplit
  obtain ⟨front, inner, rfl, rfl, hinner⟩ := List.map_eq_append_iff.mp hrest
  obtain ⟨rest, trail, rfl, hrest, rfl⟩ := List.map_eq_append_iff.mp (hinner.trans htrim)
  obtain ⟨lead, name, rfl, rfl, hmap⟩ := List.map_eq_append_iff.mp hrest
  rw [hbytes] at hread
  refine ⟨front, lead, name, trail, back, hbytes, fun b hb => ?_, fun b hb => ?_,
    fun b hb => ?_, ?_⟩
  · refine (readable_byte (hread b ?_)).1 (ha _ ?_)
    · simp [List.mem_of_mem_getLast? hb]
    · simpa using ⟨b, hb, rfl⟩
  · refine (readable_byte (hread b ?_)).1 (hz _ ?_)
    · simp [List.mem_of_mem_head? hb]
    · simpa using ⟨b, hb, rfl⟩
  · refine (readable_byte (hread b ?_)).2 (hblank _ ?_)
    · rcases List.mem_append.mp hb with hb | hb <;> simp [hb]
    · rw [← List.map_append]
      exact List.mem_map_of_mem hb
  · rw [trimBlank, ← hmap, encode_ofNat] at hname
    · exact hname
    · intro b hb
      exact FieldValue.toNat_lt_of_isReadableByte (hread b (by simp [hb]))

theorem mem_listedIn_of_lists (h : v.text? = some cs) (hn : Lists v n) : n ∈ listedIn cs := by
  obtain ⟨-, rfl⟩ := FieldValue.text?_eq_some_iff.mp h
  obtain ⟨front, lead, name, trail, back, hbytes, hfront, hback, hblank, hname⟩ := hn
  refine List.mem_filterMap.mpr ⟨(lead ++ name ++ trail).map fun b => Char.ofNat b.toNat, ?_, ?_⟩
  · refine mem_pieces_iff.mpr ⟨comma_notMem_member hblank hname,
      front.map fun b => Char.ofNat b.toNat, back.map fun b => Char.ofNat b.toNat,
      by simp [hbytes], fun c hc => ?_, fun c hc => ?_⟩
    · simp only [List.getLast?_map, Option.mem_def, Option.map_eq_some_iff] at hc
      obtain ⟨b, hb, rfl⟩ := hc
      rw [hfront b hb]
      decide
    · simp only [List.head?_map, Option.mem_def, Option.map_eq_some_iff] at hc
      obtain ⟨b, hb, rfl⟩ := hc
      rw [hback b hb]
      decide
  · rw [encode_trimBlank hblank hname, hname]

/-- Of a value that can be read as text, the members that are taken for names are those that it
lists. -/
theorem mem_listedIn_iff (h : v.text? = some cs) : n ∈ listedIn cs ↔ Lists v n :=
  ⟨lists_of_mem_listedIn h, mem_listedIn_of_lists h⟩

end Readable

section Strip
variable {fs : Fields} {n : FieldName}

theorem mem_connectionListed_iff : n ∈ connectionListed fs ↔ ReadablyListed fs n := by
  simp only [connectionListed, List.mem_flatMap, List.mem_filterMap, ReadablyListed]
  constructor
  · rintro ⟨cs, ⟨v, hv, htext⟩, hn⟩
    exact ⟨v, hv, (FieldValue.text?_eq_some_iff.mp htext).1, (mem_listedIn_iff htext).mp hn⟩
  · rintro ⟨v, hv, hread, hn⟩
    have htext := FieldValue.text?_eq_some_iff.mpr ⟨hread, rfl⟩
    exact ⟨_, ⟨v, hv, htext⟩, (mem_listedIn_iff htext).mpr hn⟩

/-- Names that stripping takes out of a list. -/
def Stripped (fs : Fields) (n : FieldName) : Prop := n ∈ hopByHopNames ∨ ReadablyListed fs n

private theorem values_strip (fs : Fields) (n : FieldName) : (stripHopByHop fs).values n =
    if !hopByHopNames.contains n && !(connectionListed fs).contains n then fs.values n else [] :=
  Fields.values_filter fs
    (fun n => !hopByHopNames.contains n && !(connectionListed fs).contains n) n

theorem values_stripHopByHop_of_stripped (h : Stripped fs n) :
    (stripHopByHop fs).values n = [] := by
  rw [values_strip, if_neg]
  rcases h with h | h
  · simp [h]
  · simp [mem_connectionListed_iff.mpr h]

theorem values_stripHopByHop (h : ¬ Stripped fs n) :
    (stripHopByHop fs).values n = fs.values n := by
  rw [Stripped, not_or, ← mem_connectionListed_iff] at h
  rw [values_strip, if_pos (by simp [h])]

theorem has_stripHopByHop_iff :
    (stripHopByHop fs).has n = true ↔ fs.has n = true ∧ ¬ Stripped fs n := by
  by_cases h : Stripped fs n
  · simp [Fields.has_iff, values_stripHopByHop_of_stripped h, h]
  · simp [Fields.has_iff, values_stripHopByHop h, h]

theorem has_stripHopByHop_eq_false_iff : (stripHopByHop fs).has n = false ↔
    fs.has n = false ∨ n ∈ hopByHopNames ∨ ReadablyListed fs n := by
  rw [← Bool.not_eq_true, has_stripHopByHop_iff, Classical.not_and_iff_not_or_not,
    Classical.not_not, Stripped, Bool.not_eq_true]

end Strip

end BrokerGate.Proxy
