import BrokerGate.Proofs.Http.Field
import BrokerGate.Proofs.Http.Peer
import BrokerGate.Proofs.Text.Split
import BrokerGate.Proofs.Text.Utf8
import BrokerGate.Proxy.Forward

/-! The list of hops as bytes. Its entries are the earlier values that can be read, and the caller's
address is the last of them; such a list is a value that can be read in turn. -/
namespace BrokerGate.Proxy
open Text Utf8 Http

/-- Entries with a comma (44) and a space (32) between them. -/
def hopList (entries : List Bytes) : Bytes := [44, 32].intercalate entries

/-- The values that are taken into a list of hops: those of visible ASCII and tabs that are not
empty. -/
def hopEntries (vs : List FieldValue) : List Bytes :=
  (vs.filter fun v => v.isReadable && !v.bytes.isEmpty).map FieldValue.bytes

/-- The last entry of a list in a value, without blanks around it. -/
def lastAddress? (v : FieldValue) : Option (List Char) :=
  (v.text?.bind fun cs => (pieces ',' cs).getLast?).map trimBlank

section List
variable {entries : List Bytes}

theorem hopList_singleton (e : Bytes) : hopList [e] = e := List.intercalate_singleton

theorem hopList_cons (e : Bytes) (h : entries ≠ []) :
    hopList (e :: entries) = e ++ [44, 32] ++ hopList entries := List.intercalate_cons_of_ne_nil h

theorem hopList_append_singleton (h : entries ≠ []) (e : Bytes) :
    hopList (entries ++ [e]) = hopList entries ++ [44, 32] ++ e := by
  induction entries with
  | nil => exact absurd rfl h
  | cons f entries ih =>
    by_cases hentries : entries = []
    · subst hentries
      rw [List.singleton_append, hopList_cons f (by simp), hopList_singleton, hopList_singleton]
    · rw [List.cons_append, hopList_cons f (by simp), hopList_cons f hentries, ih hentries]
      simp only [List.append_assoc]

/-- A list that goes on behind another one may as well have it as its first entry. -/
theorem hopList_hopList (h : entries ≠ []) (e : Bytes) :
    hopList [hopList entries, e] = hopList (entries ++ [e]) := by
  rw [hopList_append_singleton h, hopList_cons _ (by simp), hopList_singleton]

theorem forall_mem_hopList {p : UInt8 → Prop} (hcomma : p 44) (hspace : p 32)
    (h : ∀ e ∈ entries, ∀ b ∈ e, p b) : ∀ b ∈ hopList entries, p b := by
  induction entries with
  | nil => exact fun b hb => nomatch hb
  | cons e entries ih =>
    rw [List.forall_mem_cons] at h
    by_cases hentries : entries = []
    · subst hentries
      rw [hopList_singleton]
      exact h.1
    · have hsep : ∀ b ∈ ([44, 32] : Bytes), p b := by simp [hcomma, hspace]
      rw [hopList_cons e hentries]
      simp only [List.forall_mem_append]
      exact ⟨⟨h.1, hsep⟩, ih h.2⟩

theorem encode_joinWith (parts : List (List Char)) :
    encode (joinWith [',', ' '] parts) = hopList (parts.map encode) := by
  induction parts with
  | nil => rfl
  | cons part parts ih =>
    by_cases hparts : parts = []
    · subst hparts
      rw [joinWith_singleton, List.map_singleton, hopList_singleton]
    · rw [joinWith_cons _ _ hparts, List.map_cons, hopList_cons _ (by simpa using hparts), ← ih]
      simp only [encode, List.flatMap_append]
      rfl

end List

section Entries
variable {vs : List FieldValue} {e : Bytes}

theorem mem_hopEntries : e ∈ hopEntries vs →
    e ≠ [] ∧ ∀ b ∈ e, FieldValue.isReadableByte b = true := by
  intro he
  obtain ⟨v, hv, rfl⟩ := List.mem_map.mp he
  obtain ⟨-, hv⟩ := List.mem_filter.mp hv
  rw [Bool.and_eq_true] at hv
  exact ⟨by simpa using hv.2, FieldValue.isReadable_iff.mp hv.1⟩

/-- What is read of earlier values is written again as it was. -/
theorem encode_prior (vs : List FieldValue) :
    ((vs.filterMap FieldValue.text?).filter (!·.isEmpty)).map encode = hopEntries vs := by
  induction vs with
  | nil => rfl
  | cons v vs ih =>
    rw [hopEntries, List.filter_cons, List.filterMap_cons]
    cases htext : v.text? with
    | none =>
      have hunread : v.isReadable = false := by
        rw [← Bool.not_eq_true]
        intro hread
        rw [FieldValue.text?, if_pos hread] at htext
        cases htext
      simp only [hunread, Bool.false_and]
      exact ih
    | some cs =>
      obtain ⟨hread, rfl⟩ := FieldValue.text?_eq_some_iff.mp htext
      have hascii : ∀ b ∈ v.bytes, b.toNat < 128 := fun b hb =>
        FieldValue.toNat_lt_of_isReadableByte (FieldValue.isReadable_iff.mp hread b hb)
      simp only [hread, Bool.true_and, List.filter_cons, List.isEmpty_map]
      cases hempty : v.bytes.isEmpty with
      | true => exact ih
      | false =>
        have hhead := encode_ofNat hascii
        simp only [Bool.not_false, if_true, List.map_cons, hhead]
        exact congrArg (v.bytes :: ·) ih

end Entries

section Value
variable (fs : Fields) (peer : IpAddress)

theorem encode_forwardedForValue : encode (forwardedForValue fs peer) =
    hopList (hopEntries (fs.values .forwardedFor) ++ [encode peer.text]) := by
  simp only [forwardedForValue, encode_joinWith, List.map_append, encode_prior, List.map_cons,
    List.map_nil]

theorem isReadable_forwardedForValue :
    (FieldValue.mk (encode (forwardedForValue fs peer)) false).isReadable = true := by
  rw [FieldValue.isReadable_iff, encode_forwardedForValue]
  refine forall_mem_hopList (by decide) (by decide) fun e he b hb => ?_
  rcases List.mem_append.mp he with he | he
  · exact (mem_hopEntries he).2 b hb
  · obtain rfl := List.mem_singleton.mp he
    obtain ⟨c, hc, hb⟩ := List.mem_flatMap.mp hb
    have haddress := IpAddress.isAddressChar_of_mem_text hc
    rw [utf8EncodeChar_ascii (IpAddress.toNat_lt_of_isAddressChar haddress)] at hb
    obtain rfl := List.mem_singleton.mp hb
    exact (IpAddress.address_char haddress).2.2

/-- The list with an address at its end is always a field value. -/
theorem ofBytes?_forwardedForValue : FieldValue.ofBytes? (encode (forwardedForValue fs peer)) =
    some ⟨encode (forwardedForValue fs peer), false⟩ := by
  have hread := FieldValue.isReadable_iff.mp (isReadable_forwardedForValue fs peer)
  exact if_pos (List.all_eq_true.mpr fun b hb => FieldValue.isAllowedByte_of_isReadableByte
    (hread b hb))

theorem appendForwardedFor_some : appendForwardedFor fs (some peer) =
    fs.set .forwardedFor ⟨encode (forwardedForValue fs peer), false⟩ := by
  simp only [appendForwardedFor, ofBytes?_forwardedForValue]

theorem text?_forwardedForValue :
    (FieldValue.mk (encode (forwardedForValue fs peer)) false).text? =
      some (forwardedForValue fs peer) := by
  have hread := isReadable_forwardedForValue fs peer
  have hascii := fun b hb =>
    FieldValue.toNat_lt_of_isReadableByte (FieldValue.isReadable_iff.mp hread b hb)
  have hdecode := congrArg decode? (encode_ofNat hascii)
  rw [decode?_encode, decode?_encode] at hdecode
  rw [FieldValue.text?, if_pos hread, hdecode]

theorem trimBlank_append_address {l : List Char} (h : ∀ c ∈ l, isBlank c = true) :
    trimBlank (l ++ peer.text) = peer.text := by
  have hvisible : ∀ c ∈ peer.text, isBlank c = false := fun c hc =>
    (IpAddress.address_char (IpAddress.isAddressChar_of_mem_text hc)).2.1
  have htrim := trimBy_append (r := []) h (by simp) hvisible peer.text_ne_nil
  rwa [List.append_nil] at htrim

/-- Whatever stood in the list before, its last entry is the address behind it. -/
theorem lastAddress?_forwardedForValue :
    lastAddress? ⟨encode (forwardedForValue fs peer), false⟩ = some peer.text := by
  have hcomma : ',' ∉ peer.text := fun hc =>
    (IpAddress.address_char (IpAddress.isAddressChar_of_mem_text hc)).1 rfl
  rw [lastAddress?, text?_forwardedForValue, Option.bind_some, forwardedForValue]
  generalize ((fs.values .forwardedFor).filterMap FieldValue.text?).filter (!·.isEmpty) = prior
  rcases List.eq_nil_or_concat prior with rfl | ⟨prior, p, rfl⟩
  · rw [List.nil_append, joinWith_singleton, pieces_of_notMem hcomma, List.getLast?_singleton,
      Option.map_some]
    exact congrArg some (trimBlank_append_address peer (l := []) (by simp))
  · have hsplit : joinWith [',', ' '] (prior.concat p ++ [peer.text]) =
        prior.flatMap (· ++ [',', ' ']) ++ p ++ ',' :: ' ' :: peer.text := by
      rw [joinWith_append_cons]
      simp
    have hspace : ',' ∉ ' ' :: peer.text := by simp [hcomma]
    rw [hsplit, pieces_append_cons, pieces_of_notMem hspace, List.getLast?_concat,
      Option.map_some]
    exact congrArg some (trimBlank_append_address peer (l := [' '])
      (List.forall_mem_singleton.mpr (by decide)))

end Value

end BrokerGate.Proxy
