/-
Telling written values apart.

Nothing in compact JSON is preceded by its length.  A number ends where its digits
end, a string at the first quote that is not escaped, an object or an array at its
bracket.  So it matters what follows: two values are told apart if no two different
texts of theirs can be continued, by anything but a digit, to the same text.
-/

import Mathlib.Data.List.Forall2
import TraceForward.Bytes
import TraceForward.Text.Json

namespace TraceForward

/-! ### Texts as bytes -/

namespace Bytes

theorem toList_loop (array : ByteArray) (position : Nat) (taken : List UInt8) :
    ByteArray.toList.loop array position taken =
      taken.reverse ++ array.data.toList.drop position := by
  fun_induction ByteArray.toList.loop array position taken with
  | case1 position taken inside ih =>
      have bound : position < array.data.toList.length := by simpa using inside
      have byte : array.get! position = array.data.toList[position] := by
        simp only [ByteArray.get!, Array.getElem_toList]
        exact getElem!_pos array.data position inside
      rw [ih, List.drop_eq_getElem_cons bound, List.reverse_cons, List.append_assoc, byte,
        List.singleton_append]
  | case2 position taken outside =>
      rw [List.drop_eq_nil_of_le (by simpa using outside), List.append_nil]

theorem ofText_injective : Function.Injective ofText := by
  intro left right same
  unfold ofText ByteArray.toList at same
  rw [toList_loop, toList_loop] at same
  simp only [List.reverse_nil, List.nil_append, List.drop_zero, Array.toList_inj] at same
  exact String.toByteArray_inj.mp (ByteArray.ext same)

end Bytes

namespace Json

/-! ### What follows a value -/

def Stops (rest : List Char) : Prop :=
  ∀ char ∈ rest.head?, char.isDigit = false

theorem stops_cons {char : Char} (stop : char.isDigit = false) (rest : List Char) :
    Stops (char :: rest) := by
  intro first member
  cases member
  exact stop

/-- The texts are the same if they can be continued to the same text. -/
def Told (left right : String) : Prop :=
  ∀ rest more, Stops rest → Stops more →
    left.toList ++ rest = right.toList ++ more → left = right

theorem Told.cut {left right : String} (told : Told left right) {rest more : List Char}
    (stops : Stops rest) (ends : Stops more)
    (same : left.toList ++ rest = right.toList ++ more) : left = right ∧ rest = more := by
  have texts := told rest more stops ends same
  refine ⟨texts, ?_⟩
  rw [texts] at same
  exact List.append_cancel_left same

/-! ### Numbers -/

theorem takeWhile_number (number : Nat) {rest : List Char} (stops : Stops rest) :
    ((toString number).toList ++ rest).takeWhile Char.isDigit = (toString number).toList := by
  have digits : ∀ char ∈ (toString number).toList, char.isDigit = true := by
    intro char member
    rw [Nat.toString_eq_repr, Nat.repr, String.toList_ofList] at member
    exact Nat.isDigit_of_mem_toDigits (by decide) (by decide) member
  rw [List.takeWhile_append_of_pos digits]
  cases rest with
  | nil => simp
  | cons char rest =>
      have stop : char.isDigit = false := stops char rfl
      rw [List.takeWhile_cons_of_neg (by simp [stop]), List.append_nil]

theorem told_number (left right : Nat) : Told (toString left) (toString right) := by
  intro rest more stops ends same
  apply String.toList_injective
  rw [← takeWhile_number left stops, same, takeWhile_number right ends]

theorem toString_injective : Function.Injective (toString : Nat → String) := by
  intro left right same
  have digits : Nat.toDigits 10 left = Nat.toDigits 10 right := String.ofList_injective same
  rw [← Nat.ofDigitChars_ten_toDigits (n := left), digits, Nat.ofDigitChars_ten_toDigits]

/-! ### Strings -/

def escaped : List Char :=
  '"' :: '\\' :: (List.range 32).map Char.ofNat

theorem mem_escaped_of_lt {char : Char} (control : char.toNat < 32) : char ∈ escaped := by
  have named : Char.ofNat char.toNat = char := Char.ofNat_toNat char
  rw [← named]
  exact List.mem_cons_of_mem _ (List.mem_cons_of_mem _
    (List.mem_map_of_mem (List.mem_range.mpr control)))

theorem escapeChar_plain {char : Char} (plain : char ∉ escaped) : escapeChar char = [char] := by
  have printable : ¬ char.toNat < 32 := fun control => plain (mem_escaped_of_lt control)
  unfold escapeChar
  split
  · exact (plain (by decide)).elim
  · exact (plain (by decide)).elim
  · exact (plain (by decide)).elim
  · exact (plain (by decide)).elim
  · exact (plain (by decide)).elim
  · have others : char.toNat ≠ 8 ∧ char.toNat ≠ 12 := by omega
    simp [others.1, others.2, printable]

theorem quoted_plain {text : String}
    (plain : (text.toList.all fun char => !escaped.contains char) = true) :
    quoted text = "\"" ++ text ++ "\"" := by
  have unescaped : ∀ char ∈ text.toList, escapeChar char = [char] := by
    intro char member
    apply escapeChar_plain
    simpa using List.all_eq_true.mp plain char member
  have same : text.toList.flatMap escapeChar = text.toList :=
    calc text.toList.flatMap escapeChar
      _ = text.toList.flatMap fun char => [char] := List.flatMap_congr unescaped
      _ = text.toList := List.flatMap_singleton' _
  apply String.toList_injective
  simp [quoted, same]

theorem head_escapeChar_of_mem {char : Char} (member : char ∈ escaped) :
    (escapeChar char).head? = some '\\' := by
  have each : escaped.all fun char => (escapeChar char).head? = some '\\' := by
    decide +kernel
  simpa using List.all_eq_true.mp each char member

theorem head_escapeChar (char : Char) :
    (escapeChar char).head? = some (if char ∈ escaped then '\\' else char) := by
  by_cases member : char ∈ escaped
  · rw [if_pos member, head_escapeChar_of_mem member]
  · rw [if_neg member, escapeChar_plain member]
    rfl

theorem eq_of_escapes {left right : Char} (member : left ∈ escaped) (other : right ∈ escaped)
    (begins : escapeChar left <+: escapeChar right) : left = right := by
  have each : escaped.all fun left => escaped.all fun right =>
      !(escapeChar left).isPrefixOf (escapeChar right) || left == right := by
    decide +kernel
  have pair := List.all_eq_true.mp (List.all_eq_true.mp each left member) right other
  rw [List.isPrefixOf_iff_prefix.mpr begins] at pair
  simpa using pair

theorem eq_of_escapeChar_begins {left right : Char}
    (begins : escapeChar left <+: escapeChar right) : left = right := by
  have heads : (if left ∈ escaped then '\\' else left) =
      (if right ∈ escaped then '\\' else right) := by
    obtain ⟨more, whole⟩ := begins
    have first := head_escapeChar right
    rw [← whole, List.head?_append, head_escapeChar left] at first
    exact Option.some.inj first
  have backslash : '\\' ∈ escaped := by decide
  by_cases special : left ∈ escaped
  · by_cases other : right ∈ escaped
    · exact eq_of_escapes special other begins
    · rw [if_pos special, if_neg other] at heads
      exact (other (heads ▸ backslash)).elim
  · by_cases other : right ∈ escaped
    · rw [if_neg special, if_pos other] at heads
      exact (special (heads ▸ backslash)).elim
    · rw [if_neg special, if_neg other] at heads
      exact heads

theorem escapeChar_cut {left right : Char} {rest more : List Char}
    (same : escapeChar left ++ rest = escapeChar right ++ more) : left = right ∧ rest = more := by
  have first : escapeChar left <+: escapeChar right ++ more := ⟨rest, same⟩
  have second : escapeChar right <+: escapeChar right ++ more := ⟨more, rfl⟩
  have chars : left = right := by
    rcases List.prefix_or_prefix_of_prefix first second with begins | begins
    · exact eq_of_escapeChar_begins begins
    · exact (eq_of_escapeChar_begins begins).symm
  refine ⟨chars, ?_⟩
  rw [chars] at same
  exact List.append_cancel_left same

theorem escapeChar_ne_quote (char : Char) (rest more : List Char) :
    escapeChar char ++ rest ≠ '"' :: more := by
  intro same
  have first := congrArg List.head? same
  rw [List.head?_append, head_escapeChar] at first
  have quote : '"' ∈ escaped := by decide
  by_cases special : char ∈ escaped
  · rw [if_pos special] at first
    cases first
  · rw [if_neg special] at first
    cases first
    exact special quote

theorem flatMap_escapeChar_cut {left right rest more : List Char}
    (same : left.flatMap escapeChar ++ '"' :: rest = right.flatMap escapeChar ++ '"' :: more) :
    left = right ∧ rest = more := by
  induction left generalizing right with
  | nil =>
      cases right with
      | nil => exact ⟨rfl, List.tail_eq_of_cons_eq same⟩
      | cons char right =>
          rw [List.flatMap_cons, List.append_assoc] at same
          exact (escapeChar_ne_quote _ _ _ same.symm).elim
  | cons first left ih =>
      cases right with
      | nil =>
          rw [List.flatMap_cons, List.append_assoc] at same
          exact (escapeChar_ne_quote _ _ _ same).elim
      | cons char right =>
          rw [List.flatMap_cons, List.flatMap_cons, List.append_assoc, List.append_assoc] at same
          obtain ⟨rfl, later⟩ := escapeChar_cut same
          obtain ⟨rfl, behind⟩ := ih later
          exact ⟨rfl, behind⟩

theorem quoted_cut {left right : String} {rest more : List Char}
    (same : (quoted left).toList ++ rest = (quoted right).toList ++ more) :
    left = right ∧ rest = more := by
  simp only [quoted, String.toList_ofList, List.cons_append, List.append_assoc,
    List.nil_append, List.cons.injEq, true_and] at same
  obtain ⟨chars, behind⟩ := flatMap_escapeChar_cut same
  exact ⟨String.toList_injective chars, behind⟩

theorem told_quoted (left right : String) : Told (quoted left) (quoted right) := by
  intro rest more _ _ same
  rw [(quoted_cut same).1]

theorem quoted_injective : Function.Injective quoted := by
  intro left right same
  exact (quoted_cut (congrArg (fun text => text.toList ++ []) same)).1

/-! ### Rows of elements -/

/-- What stands behind an element of a row: the others, or the closing bracket. -/
def behind (close : Char) (rest : List Char) : List String → List Char
  | [] => close :: rest
  | element :: others => ',' :: ((",".intercalate (element :: others)).toList ++ close :: rest)

theorem intercalate_cons (close : Char) (rest : List Char) (element : String)
    (others : List String) :
    (",".intercalate (element :: others)).toList ++ close :: rest =
      element.toList ++ behind close rest others := by
  cases others with
  | nil => simp [behind]
  | cons next others => simp [behind, String.intercalate_cons_cons]

theorem stops_behind {close : Char} (bracket : close.isDigit = false) (rest : List Char)
    (others : List String) : Stops (behind close rest others) := by
  cases others with
  | nil => exact stops_cons bracket rest
  | cons element others => exact stops_cons (by decide) _

def Opens (close : Char) (element : String) : Prop :=
  ∃ first ∈ element.toList.head?, first ≠ close

theorem Opens.ne {close : Char} {element : String} (opens : Opens close element)
    (others rest : List Char) : element.toList ++ others ≠ close :: rest := by
  obtain ⟨first, begins, other⟩ := opens
  intro same
  have heads := congrArg List.head? same
  rw [List.head?_append, Option.mem_def.mp begins] at heads
  exact other (Option.some.inj heads)

theorem row_cut {close : Char} (bracket : close.isDigit = false ∧ close ≠ ',')
    {left right : List String} {rest more : List Char}
    (told : ∀ pair ∈ left.zip right, Told pair.1 pair.2)
    (opens : ∀ element ∈ left ++ right, Opens close element)
    (same : (",".intercalate left).toList ++ close :: rest =
      (",".intercalate right).toList ++ close :: more) : left = right ∧ rest = more := by
  induction left generalizing right with
  | nil =>
      cases right with
      | nil => exact ⟨rfl, List.tail_eq_of_cons_eq same⟩
      | cons element right =>
          rw [intercalate_cons] at same
          exact ((opens element (by simp)).ne _ _ same.symm).elim
  | cons first left ih =>
      cases right with
      | nil =>
          rw [intercalate_cons] at same
          exact ((opens first (by simp)).ne _ _ same).elim
      | cons element right =>
          rw [intercalate_cons, intercalate_cons] at same
          have heads : Told first element := told (first, element) List.mem_cons_self
          obtain ⟨rfl, later⟩ := heads.cut (stops_behind bracket.1 rest left)
            (stops_behind bracket.1 more right) same
          cases left with
          | nil =>
              cases right with
              | nil => exact ⟨rfl, List.tail_eq_of_cons_eq later⟩
              | cons next right => exact (bracket.2 (List.head_eq_of_cons_eq later)).elim
          | cons next left =>
              cases right with
              | nil => exact (bracket.2 (List.head_eq_of_cons_eq later).symm).elim
              | cons other right =>
                  have elements : next :: left = other :: right ∧ rest = more := by
                    apply ih
                    · intro pair member
                      exact told pair (List.mem_cons_of_mem _ member)
                    · intro text member
                      refine opens text ?_
                      simp only [List.mem_append, List.mem_cons] at member ⊢
                      tauto
                    · exact List.tail_eq_of_cons_eq later
                  rw [elements.1]
                  exact ⟨rfl, elements.2⟩

/-! ### Arrays and objects -/

/-- Elements of one kind, none of which looks like the end of an array. -/
structure ElementsTold (left right : List String) : Prop where
  told : ∀ pair ∈ left.zip right, Told pair.1 pair.2
  opens : ∀ element ∈ left ++ right, Opens ']' element

namespace ElementsTold

variable {left right : List String}

theorem cut (elements : ElementsTold left right) {rest more : List Char}
    (same : (array left).toList ++ rest = (array right).toList ++ more) : left = right := by
  simp only [array, String.toList_append, List.append_assoc] at same
  exact (row_cut ⟨by decide, by decide⟩ elements.told elements.opens
    (List.append_cancel_left same)).1

theorem told_array (elements : ElementsTold left right) : Told (array left) (array right) := by
  intro rest more _ _ same
  rw [elements.cut same]

theorem of_array_eq (elements : ElementsTold left right) (same : array left = array right) :
    left = right :=
  elements.cut (congrArg (fun text => text.toList ++ []) same)

end ElementsTold

def FieldsTold : List (String × String) → List (String × String) → Prop :=
  List.Forall₂ fun field other => field.1 = other.1 ∧ Told field.2 other.2

namespace FieldsTold

variable {fields others : List (String × String)} (name : String)

theorem nil : FieldsTold [] [] :=
  List.Forall₂.nil

theorem number (left right : Nat) (told : FieldsTold fields others) :
    FieldsTold ((name, toString left) :: fields) ((name, toString right) :: others) :=
  List.Forall₂.cons ⟨rfl, told_number left right⟩ told

theorem text (left right : String) (told : FieldsTold fields others) :
    FieldsTold ((name, quoted left) :: fields) ((name, quoted right) :: others) :=
  List.Forall₂.cons ⟨rfl, told_quoted left right⟩ told

theorem elements {left right : List String} (each : ElementsTold left right)
    (told : FieldsTold fields others) :
    FieldsTold ((name, array left) :: fields) ((name, array right) :: others) :=
  List.Forall₂.cons ⟨rfl, each.told_array⟩ told

end FieldsTold

def fieldText (field : String × String) : String :=
  quoted field.1 ++ ":" ++ field.2

theorem opens_fieldText (field : String × String) : Opens '\x7d' (fieldText field) := by
  refine ⟨'"', ?_, by decide⟩
  simp [fieldText, quoted]

theorem fieldText_cut {field other : String × String} {rest more : List Char}
    (name : field.1 = other.1) (told : Told field.2 other.2) (stops : Stops rest)
    (ends : Stops more)
    (same : (fieldText field).toList ++ rest = (fieldText other).toList ++ more) :
    field = other := by
  obtain ⟨key, value⟩ := field
  obtain ⟨_, text⟩ := other
  cases name
  simp only [fieldText, String.toList_append, List.append_assoc] at same
  have values : value = text :=
    told rest more stops ends (List.append_cancel_left (List.append_cancel_left same))
  rw [values]

theorem FieldsTold.told_texts {fields others : List (String × String)}
    (told : FieldsTold fields others) :
    ∀ pair ∈ (fields.map fieldText).zip (others.map fieldText), Told pair.1 pair.2 := by
  induction told with
  | nil => nofun
  | @cons field other fields others head tail ih =>
      intro pair member
      rcases List.mem_cons.mp member with rfl | later
      · intro rest more stops ends same
        rw [fieldText_cut head.1 head.2 stops ends same]
      · exact ih pair later

theorem FieldsTold.eq_of_texts {fields others : List (String × String)}
    (told : FieldsTold fields others)
    (same : fields.map fieldText = others.map fieldText) : fields = others := by
  induction told with
  | nil => rfl
  | @cons field other fields others head tail ih =>
      rw [List.map_cons, List.map_cons, List.cons.injEq] at same
      have first : field = other := by
        have texts : (fieldText field).toList ++ [] = (fieldText other).toList ++ [] := by
          rw [same.1]
        have ended : Stops [] := nofun
        exact fieldText_cut head.1 head.2 ended ended texts
      rw [first, ih same.2]

theorem FieldsTold.cut {fields others : List (String × String)}
    (told : FieldsTold fields others) {rest more : List Char}
    (same : (object fields).toList ++ rest = (object others).toList ++ more) :
    fields = others := by
  simp only [object, String.toList_append, List.append_assoc] at same
  have opens : ∀ element ∈ fields.map fieldText ++ others.map fieldText,
      Opens '\x7d' element := by
    intro element member
    rw [← List.map_append] at member
    obtain ⟨field, _, rfl⟩ := List.mem_map.mp member
    exact opens_fieldText field
  have texts := (row_cut ⟨by decide, by decide⟩ told.told_texts opens
    (List.append_cancel_left same)).1
  exact told.eq_of_texts texts

theorem FieldsTold.told_object {fields others : List (String × String)}
    (told : FieldsTold fields others) : Told (object fields) (object others) := by
  intro rest more _ _ same
  rw [told.cut same]

theorem FieldsTold.of_object_eq {fields others : List (String × String)}
    (told : FieldsTold fields others) (same : object fields = object others) :
    fields = others :=
  told.cut (congrArg (fun text => text.toList ++ []) same)

end Json
end TraceForward
