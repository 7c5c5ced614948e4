import BrokerGate.Error
import BrokerGate.Proofs.Text.Split
import Mathlib.Data.List.Basic
import Mathlib.Data.List.Induction

/-! What the line for an error tells of its causes. Each of them is shown, be it in the text of
another or across a separator; the line is the join of those that are new when they come up, and
further causes only ever lengthen it at its end. -/
namespace BrokerGate
open Text

namespace ErrorChain

section Extend
variable {line message : List Char} {messages : List (List Char)}

theorem extend_of_shown (h : message <:+: line) : extend line message = line :=
  if_pos (hasInfix_iff.mpr h)

theorem extend_of_new (h : ¬ message <:+: line) :
    extend line message = line ++ separator ++ message :=
  if_neg (mt hasInfix_iff.mp h)

theorem prefix_extend (line message : List Char) : line <+: extend line message := by
  by_cases h : message <:+: line
  · exact ⟨[], by rw [extend_of_shown h, List.append_nil]⟩
  · rw [extend_of_new h, List.append_assoc]
    exact List.prefix_append _ _

theorem infix_extend (line message : List Char) : message <:+: extend line message := by
  by_cases h : message <:+: line
  · rwa [extend_of_shown h]
  · rw [extend_of_new h]
    exact (List.suffix_append _ _).isInfix

theorem prefix_foldl_extend (line : List Char) (messages : List (List Char)) :
    line <+: messages.foldl extend line := by
  induction messages generalizing line with
  | nil => exact List.prefix_rfl
  | cons m ms ih => exact (prefix_extend line m).trans (ih _)

theorem infix_foldl_extend (line : List Char) (h : message ∈ messages) :
    message <:+: messages.foldl extend line := by
  induction messages generalizing line with
  | nil => cases h
  | cons m ms ih =>
    rcases List.mem_cons.mp h with rfl | h
    · exact (infix_extend line message).trans (prefix_foldl_extend _ ms).isInfix
    · exact ih _ h

theorem foldl_extend_of_shown (h : ∀ m ∈ messages, m <:+: line) :
    messages.foldl extend line = line := by
  induction messages with
  | nil => rfl
  | cons m ms ih =>
    rw [List.forall_mem_cons] at h
    rw [List.foldl_cons, extend_of_shown h.1, ih h.2]

end Extend

section Text
variable {messages more : List String} {line message : String}

theorem text_singleton (message : String) : text [message] = some message :=
  congrArg some (String.ofList_toList ..)

/-- A chain that goes on is told from the line for its first messages on. -/
theorem text_append (h : text messages = some line) (more : List String) :
    text (messages ++ more) =
      some (String.ofList ((more.map String.toList).foldl extend line.toList)) := by
  cases messages with
  | nil => cases h
  | cons outermost causes =>
    have hline := congrArg String.toList (Option.some.inj h)
    rw [String.toList_ofList] at hline
    rw [← hline, ← List.foldl_append, ← List.map_append]
    rfl

theorem text_append_of_shown (h : text messages = some line)
    (hmore : ∀ m ∈ more, m.toList <:+: line.toList) : text (messages ++ more) = some line := by
  rw [text_append h, foldl_extend_of_shown, String.ofList_toList]
  exact List.forall_mem_map.mpr hmore

theorem text_concat_of_new (h : text messages = some line)
    (hmessage : ¬ message.toList <:+: line.toList) :
    text (messages ++ [message]) = some (line ++ ": " ++ message) := by
  rw [text_append h, List.map_singleton, List.foldl_cons, List.foldl_nil,
    extend_of_new hmessage, String.ofList_append, String.ofList_append,
    String.ofList_toList, String.ofList_toList]
  rfl

theorem exists_text_append (h : text messages = some line) (more : List String) :
    ∃ longer, text (messages ++ more) = some longer ∧ line.toList <+: longer.toList := by
  refine ⟨_, text_append h more, ?_⟩
  rw [String.toList_ofList]
  exact prefix_foldl_extend _ _

theorem infix_of_mem (h : text messages = some line) (hmessage : message ∈ messages) :
    message.toList <:+: line.toList := by
  cases messages with
  | nil => cases h
  | cons outermost causes =>
    rw [← Option.some.inj h, String.toList_ofList]
    rcases List.mem_cons.mp hmessage with rfl | hmessage
    · exact (prefix_foldl_extend _ _).isInfix
    · exact infix_foldl_extend _ (List.mem_map_of_mem hmessage)

end Text

section Places
variable {outermost message line : String} {causes : List String} {places : List Nat} {i : Nat}

/-- The line for the error and the causes in front of a place does not show the cause there. -/
def IsNew (outermost : String) (causes : List String) (place : Nat) : Prop :=
  ∃ line cause, text (outermost :: causes.take place) = some line ∧
    causes[place]? = some cause ∧ ¬ cause.toList <:+: line.toList

/-- The places of the causes that are new when they come up, in their order. -/
structure NewPlaces (outermost : String) (causes : List String) (places : List Nat) : Prop where
  ascending : places.Pairwise (· < ·)
  mem_iff : ∀ i, i ∈ places ↔ IsNew outermost causes i

theorem IsNew.lt_length (h : IsNew outermost causes i) : i < causes.length := by
  obtain ⟨line, cause, -, hcause, -⟩ := h
  exact (List.getElem?_eq_some_iff.mp hcause).1

theorem isNew_append_left (h : i < causes.length) (more : List String) :
    IsNew outermost (causes ++ more) i ↔ IsNew outermost causes i := by
  rw [IsNew, IsNew, List.take_append_of_le_length (Nat.le_of_lt h), List.getElem?_append_left h]

theorem isNew_concat_length (h : text (outermost :: causes) = some line) :
    IsNew outermost (causes ++ [message]) causes.length ↔ ¬ message.toList <:+: line.toList := by
  rw [IsNew, List.take_left, List.getElem?_concat_length, h]
  simp

theorem isNew_concat_iff (h : text (outermost :: causes) = some line) :
    IsNew outermost (causes ++ [message]) i ↔
      IsNew outermost causes i ∨ i = causes.length ∧ ¬ message.toList <:+: line.toList := by
  constructor
  · intro hnew
    have hi : i < causes.length ∨ i = causes.length := by
      have hlt := hnew.lt_length
      rw [List.length_append, List.length_singleton] at hlt
      omega
    rcases hi with hi | rfl
    · exact .inl ((isNew_append_left hi _).mp hnew)
    · exact .inr ⟨rfl, (isNew_concat_length h).mp hnew⟩
  · rintro (hnew | ⟨rfl, hnew⟩)
    · exact (isNew_append_left hnew.lt_length _).mpr hnew
    · exact (isNew_concat_length h).mpr hnew

namespace NewPlaces

theorem filterMap_append (h : NewPlaces outermost causes places) (more : List String) :
    places.filterMap ((causes ++ more)[·]?) = places.filterMap (causes[·]?) :=
  List.filterMap_congr fun i hi => List.getElem?_append_left ((h.mem_iff i).mp hi).lt_length

theorem filterMap_concat (h : NewPlaces outermost causes places) (message : String) :
    (places ++ [causes.length]).filterMap ((causes ++ [message])[·]?) =
      places.filterMap (causes[·]?) ++ [message] := by
  rw [List.filterMap_append, h.filterMap_append]
  simp

theorem concat_of_shown (h : NewPlaces outermost causes places)
    (hline : text (outermost :: causes) = some line) (hshown : message.toList <:+: line.toList) :
    NewPlaces outermost (causes ++ [message]) places where
  ascending := h.ascending
  mem_iff := by
    intro i
    rw [h.mem_iff, isNew_concat_iff hline]
    exact (or_iff_left fun hi => hi.2 hshown).symm

theorem concat_of_new (h : NewPlaces outermost causes places)
    (hline : text (outermost :: causes) = some line) (hnew : ¬ message.toList <:+: line.toList) :
    NewPlaces outermost (causes ++ [message]) (places ++ [causes.length]) where
  ascending := by
    rw [List.pairwise_append]
    refine ⟨h.ascending, List.pairwise_singleton _ _, fun i hi j hj => ?_⟩
    obtain rfl := List.mem_singleton.mp hj
    exact ((h.mem_iff i).mp hi).lt_length
  mem_iff := by
    intro i
    rw [List.mem_append, List.mem_singleton, h.mem_iff, isNew_concat_iff hline,
      and_iff_left hnew]

end NewPlaces

/-- The line is the join of the error's own message and those of the causes that are new. -/
theorem exists_newPlaces (outermost : String) (causes : List String) :
    ∃ places, NewPlaces outermost causes places ∧ text (outermost :: causes) =
      some (": ".intercalate (outermost :: places.filterMap (causes[·]?))) := by
  -- From the end, since each cause is judged by all that stands in front of it.
  induction causes using List.reverseRecOn with
  | nil =>
    refine ⟨[], ⟨.nil, fun i => ?_⟩, text_singleton outermost⟩
    exact iff_of_false List.not_mem_nil fun hnew => Nat.not_lt_zero i hnew.lt_length
  | append_singleton causes message ih =>
    obtain ⟨places, hplaces, hline⟩ := ih
    rw [← List.cons_append]
    by_cases hshown : message.toList <:+:
        (": ".intercalate (outermost :: places.filterMap (causes[·]?))).toList
    · refine ⟨places, hplaces.concat_of_shown hline hshown, ?_⟩
      rw [hplaces.filterMap_append]
      exact text_append_of_shown hline (List.forall_mem_singleton.mpr hshown)
    · refine ⟨places ++ [causes.length], hplaces.concat_of_new hline hshown, ?_⟩
      rw [text_concat_of_new hline hshown, hplaces.filterMap_concat, ← List.cons_append,
        String.intercalate_append_of_ne_nil (by simp) (by simp), String.intercalate_singleton]

end Places

section Line

/-- What a line tells of an error and its causes. -/
structure Tells (outermost : String) (causes : List String) (line : String) : Prop where
  starts : outermost.toList <+: line.toList
  shows : ∀ message ∈ outermost :: causes, message.toList <:+: line.toList
  /-- A cause is left out of the join exactly if what stands in front of it shows it. -/
  joined : ∃ places, NewPlaces outermost causes places ∧
    line = ": ".intercalate (outermost :: places.filterMap (causes[·]?))
  /-- Further causes leave what is told where it is. -/
  grows : ∀ more, ∃ longer, text (outermost :: causes ++ more) = some longer ∧
    line.toList <+: longer.toList
  /-- Further causes that the line shows already leave it as it is. -/
  settled : ∀ more : List String, (∀ message ∈ more, message.toList <:+: line.toList) →
    text (outermost :: causes ++ more) = some line

/-- The line for an error shows all of its causes, and adds none that it shows already. -/
theorem text_tells (outermost : String) (causes : List String) :
    ∃ line, text (outermost :: causes) = some line ∧ Tells outermost causes line := by
  obtain ⟨places, hplaces, hline⟩ := exists_newPlaces outermost causes
  refine ⟨_, hline, ?_⟩
  constructor
  · obtain ⟨longer, hlonger, hprefix⟩ := exists_text_append (text_singleton outermost) causes
    obtain rfl := Option.some.inj (hlonger.symm.trans hline)
    exact hprefix
  · exact fun message hmessage => infix_of_mem hline hmessage
  · exact ⟨places, hplaces, rfl⟩
  · exact exists_text_append hline
  · exact fun more hmore => text_append_of_shown hline hmore

/-- A cause that is shown across a separator, one without a text, and one that comes up again. -/
theorem text_tells_straddling :
    text ["a", "b", "a: b", "", "c", "b"] = some "a: b: c" ∧
      Tells "a" ["b", "a: b", "", "c", "b"] "a: b: c" ∧
      text ["a", "b", "a: b", "", "c", "b", " ", "b: c"] = some "a: b: c" := by
  obtain ⟨line, hline, htells⟩ := text_tells "a" ["b", "a: b", "", "c", "b"]
  have htext : text ["a", "b", "a: b", "", "c", "b"] = some "a: b: c" := by decide +kernel
  obtain rfl := Option.some.inj (hline.symm.trans htext)
  exact ⟨htext, htells, htells.settled [" ", "b: c"] (by decide +kernel)⟩

end Line

end ErrorChain

end BrokerGate
