import Reconciler.Proofs.Versions

/-!
# Queries read as form fields

A query is a list of form fields: names and values that stand apart by equals signs and ampersands,
with plus signs for blanks and other characters as octets after percent signs.  A word that stands
in a query as it is reads back as itself exactly if none of its characters means anything there.
-/

namespace Reconciler.Http

/-- The octet that two digits after a percent sign stand for. -/
def octet? (high low : Char) : Option UInt8 :=
  match Json.hexDigit? high, Json.hexDigit? low with
  | some high, some low => some (UInt8.ofNat (16 * high + low))
  | _, _ => none

/-- The octets of a written name or value. -/
def octets : List Char → List UInt8
  | [] => []
  | '+' :: rest => 32 :: octets rest
  | '%' :: high :: low :: rest =>
    match octet? high low with
    | some octet => octet :: octets rest
    | none => 37 :: octets (high :: low :: rest)
  | c :: rest => String.utf8EncodeChar c ++ octets rest

/-- A written name or value holds an octet after a percent sign. -/
def hasOctet : List Char → Bool
  | [] => false
  | '%' :: high :: low :: rest => (octet? high low).isSome || hasOctet (high :: low :: rest)
  | _ :: rest => hasOctet rest

/-- The text of a written name or value. -/
def formText (written : List Char) : Option String :=
  String.fromUTF8? (octets written).toByteArray

/-- A written field as its name and value. -/
def formField (written : List Char) : Option (String × String) := do
  let name ← formText (written.takeWhile (· != '='))
  let value ← formText ((written.dropWhile (· != '=')).drop 1)
  return (name, value)

/-- The form fields of an address. -/
def formFields (address : String) : Option (List (String × String)) :=
  ((query address).splitOn '&').mapM formField

/-- A word without characters that mean anything in a form field. -/
def Literal (word : String) : Prop :=
  '&' ∉ word.toList ∧ '#' ∉ word.toList ∧ '+' ∉ word.toList ∧ hasOctet word.toList = false

instance (word : String) : Decidable (Literal word) := by unfold Literal; infer_instance

/-- An octet takes no more room than what is written for it. -/
theorem length_octets_le (written : List Char) :
    (octets written).length ≤ (written.flatMap String.utf8EncodeChar).length := by
  have hpositive (c : Char) : 1 ≤ (String.utf8EncodeChar c).length := by
    rw [String.length_utf8EncodeChar]
    exact c.utf8Size_pos
  fun_induction octets written with
  | case1 => exact Nat.le_refl _
  | case2 rest ih =>
      have hplus := hpositive '+'
      simp only [List.length_cons, List.flatMap_cons, List.length_append]
      omega
  | case3 high low rest octet hoctet ih =>
      have hpercent := hpositive '%'
      simp only [List.length_cons, List.flatMap_cons, List.length_append]
      omega
  | case4 high low rest hoctet ih =>
      have hpercent := hpositive '%'
      simp only [List.length_cons, List.flatMap_cons, List.length_append] at ih ⊢
      omega
  | case5 c rest hplus hpercent ih =>
      simp only [List.flatMap_cons, List.length_append]
      omega

/-- What is written reads back as its own characters if there is nothing to decode. -/
theorem octets_eq_iff (written : List Char) :
    octets written = written.flatMap String.utf8EncodeChar ↔
      '+' ∉ written ∧ hasOctet written = false := by
  fun_induction octets written with
  | case1 => simp [hasOctet]
  | case2 rest ih =>
      refine iff_of_false (fun hsame => ?_) (by simp)
      exact absurd (List.cons.inj hsame).1 (by decide)
  | case3 high low rest octet hoctet ih =>
      refine iff_of_false (fun hsame => ?_) (by simp [hasOctet, hoctet])
      have hlength := congrArg List.length hsame
      have hshort := length_octets_le rest
      have hhigh := high.utf8Size_pos
      simp only [List.length_cons, List.flatMap_cons, List.length_append,
        String.length_utf8EncodeChar] at hlength hshort
      have hpercent : '%'.utf8Size = 1 := by decide
      omega
  | case4 high low rest hoctet ih =>
      have hmarked : hasOctet ('%' :: high :: low :: rest) = hasOctet (high :: low :: rest) := by
        rw [hasOctet, hoctet, Option.isSome_none, Bool.false_or]
      rw [hmarked, List.flatMap_cons, show String.utf8EncodeChar '%' = [37] by decide,
        List.singleton_append, List.cons_inj_right, ih]
      simp
  | case5 c rest hplus hpercent ih =>
      have hmarked : hasOctet (c :: rest) = hasOctet rest := by
        rw [hasOctet]
        exact hpercent
      rw [hmarked, List.flatMap_cons, List.append_cancel_left_eq, ih, List.mem_cons, not_or]
      simp [Ne.symm hplus]

theorem toByteArray_flatMap (text : String) :
    (text.toList.flatMap String.utf8EncodeChar).toByteArray = text.toByteArray := by
  have hencoded : (String.ofList text.toList).toByteArray = text.toList.utf8Encode :=
    String.toByteArray_ofList
  rw [String.ofList_toList] at hencoded
  exact hencoded.symm

theorem formText_eq_some_iff {written : List Char} {text : String} :
    formText written = some text ↔
      octets written = text.toList.flatMap String.utf8EncodeChar := by
  rw [← List.toByteArray_inj, toByteArray_flatMap, formText, String.fromUTF8?]
  split
  · rw [Option.some.injEq, ← String.toByteArray_inj]
    rfl
  · next hinvalid =>
    refine iff_of_false nofun fun hsame => ?_
    exact hinvalid (hsame ▸ text.isValidUTF8)

/-- A word reads back as itself from a part at its beginning only if that part is all of it. -/
theorem formText_prefix_iff {written : List Char} {word : String}
    (hpart : written <+: word.toList) :
    formText written = some word ↔
      written = word.toList ∧ '+' ∉ word.toList ∧ hasOctet word.toList = false := by
  rw [formText_eq_some_iff]
  constructor
  · intro hread
    obtain ⟨rest, hword⟩ := hpart
    have hrest : rest = [] := by
      have hlength := congrArg List.length hread
      have hshort := length_octets_le written
      rw [← hword, List.flatMap_append, List.length_append] at hlength
      have hnone : (rest.flatMap String.utf8EncodeChar).length = 0 := by omega
      rcases rest with _ | ⟨c, rest⟩
      · rfl
      · have hpositive := c.utf8Size_pos
        rw [List.flatMap_cons, List.length_append, String.length_utf8EncodeChar] at hnone
        omega
    rw [hrest, List.append_nil] at hword
    subst hword
    exact ⟨rfl, (octets_eq_iff _).mp hread⟩
  · rintro ⟨rfl, hplain⟩
    exact (octets_eq_iff _).mpr hplain

theorem head?_splitOn (mark : Char) (text : List Char) :
    (text.splitOn mark).head? = some (text.takeWhile (· != mark)) := by
  by_cases hmark : mark ∈ text
  · obtain ⟨front, back, rfl, hfront⟩ := List.eq_append_cons_of_mem hmark
    rw [List.splitOn_append_cons_self_of_not_mem hfront, List.head?_cons,
      List.takeWhile_append_of_pos fun c hc => by grind]
    simp
  · rw [List.splitOn_eq_singleton hmark, List.head?_cons,
      List.takeWhile_eq_self_iff.mpr fun c hc => by grind]

theorem query_eq_takeWhile {address : String} {front back : List Char}
    (haddress : address.toList = front ++ '?' :: back) (hquery : '?' ∉ front)
    (hfragment : '#' ∉ front) : query address = back.takeWhile (· != '#') := by
  have hsent : address.toList.takeWhile (· != '#') =
      front ++ '?' :: back.takeWhile (· != '#') := by
    rw [haddress, List.takeWhile_append_of_pos fun c hc => by grind, List.takeWhile_cons_of_pos rfl]
  rw [query, hsent, List.dropWhile_append_of_pos fun c hc => by grind]
  simp

theorem takeWhile_append_cons_of_neg {α : Type} {holds : α → Bool} {stop : α}
    (hstop : holds stop = false) (front back : List α) :
    (front ++ stop :: back).takeWhile holds = front.takeWhile holds := by
  induction front with
  | nil => simp [hstop]
  | cons c front ih => cases hc : holds c <;> simp [hc, ih]

/-- A field that begins with its name and an equals sign. -/
theorem formField_name (value : List Char) :
    formField ("name=".toList ++ value) = (formText value).map ("name", ·) := by
  have hname : ("name=".toList ++ value).takeWhile (· != '=') = "name".toList := by
    rw [show "name=".toList = "name".toList ++ ['='] by decide, List.append_assoc,
      List.singleton_append, takeWhile_append_cons_of_neg rfl]
    decide
  have hvalue : (("name=".toList ++ value).dropWhile (· != '=')).drop 1 = value := by
    rw [show "name=".toList = "name".toList ++ ['='] by decide, List.append_assoc,
      List.singleton_append, List.dropWhile_append_of_pos (List.all_eq_true.mp (by decide))]
    simp
  have hword : formText "name".toList = some "name" := by decide +kernel
  rw [formField, hname, hvalue, hword]
  cases formText value <;> rfl

/-- The path of a search for a name in a collection. -/
def searchPath (collection name : String) : String := collection ++ "?name=" ++ name

/-- The fields that a search for a name asks with. -/
def searchFields (name : String) : List (String × String) :=
  [("name", name), ("version", apiVersion), ("generation", "2")]

section Search

variable {base collection : String} (hbase : Plain base) (hcollection : Plain collection)
include hbase hcollection

/-- The query of a search ends where the name has a number sign. -/
theorem query_search (name : String) :
    query (versioned base (searchPath collection name)) =
      "name=".toList ++ (name.toList ++ '&' :: versionFields).takeWhile (· != '#') := by
  obtain ⟨hbaseQuery, hbaseFragment⟩ := hbase
  obtain ⟨hquery, hfragment⟩ := hcollection
  have haddress : (versioned base (searchPath collection name)).toList =
      (base.toList ++ collection.toList) ++
        '?' :: ("name=".toList ++ (name.toList ++ '&' :: versionFields)) := by
    have hmark : '?' ∈ (searchPath collection name).toList := by simp [searchPath]
    rw [toList_versioned, if_pos hmark]
    simp [searchPath]
  rw [query_eq_takeWhile haddress (by simp [hbaseQuery, hquery])
      (by simp [hbaseFragment, hfragment]),
    List.takeWhile_append_of_pos (List.all_eq_true.mp (by decide))]

/-- The first field of a search has the name up to its first ampersand or number sign. -/
theorem head?_query_search (name : String) :
    ((query (versioned base (searchPath collection name))).splitOn '&').head? =
      some ("name=".toList ++ name.toList.takeWhile fun c => c != '&' && c != '#') := by
  rw [head?_splitOn, query_search hbase hcollection,
    List.takeWhile_append_of_pos (List.all_eq_true.mp (by decide)), List.takeWhile_takeWhile]
  have hboth : (fun c : Char => decide ((c != '&') = true ∧ (c != '#') = true)) =
      fun c => c != '&' && c != '#' := by
    funext c
    rw [Bool.decide_and, Bool.decide_eq_true, Bool.decide_eq_true]
  rw [hboth, takeWhile_append_cons_of_neg rfl]

theorem query_search_of_literal {name : String} (hliteral : Literal name) :
    (query (versioned base (searchPath collection name))).splitOn '&' =
      ["name=".toList ++ name.toList, ("version=" ++ apiVersion).toList,
        "generation=2".toList] := by
  obtain ⟨hampersand, hfragment, -⟩ := hliteral
  have hwhole : (name.toList ++ '&' :: versionFields).takeWhile (· != '#') =
      name.toList ++ '&' :: versionFields := by
    have hend : '#' ∉ '&' :: versionFields := by decide +kernel
    exact List.takeWhile_eq_self_iff.mpr fun c hc => by grind
  rw [query_search hbase hcollection, hwhole, ← List.append_assoc,
    List.splitOn_append_cons_self_of_not_mem (by simp [hampersand]), splitOn_versionFields]

/-- A search asks for the name that was meant, and with the version, exactly if the name means
nothing else in a query. -/
theorem formFields_search_iff (name : String) :
    formFields (versioned base (searchPath collection name)) = some (searchFields name) ↔
      Literal name := by
  constructor
  · intro hfields
    have hfirst := head?_query_search hbase hcollection name
    unfold formFields at hfields
    rcases hquery : (query (versioned base (searchPath collection name))).splitOn '&' with
      _ | ⟨written, rest⟩
    · simp [hquery] at hfirst
    · rw [hquery, List.head?_cons, Option.some.injEq] at hfirst
      rw [hquery, List.mapM_cons, hfirst, formField_name] at hfields
      obtain ⟨field, hfield, hrest⟩ := Option.bind_eq_some_iff.mp hfields
      obtain ⟨fields, -, hlist⟩ := Option.bind_eq_some_iff.mp hrest
      obtain ⟨text, hread, rfl⟩ := Option.map_eq_some_iff.mp hfield
      obtain rfl : text = name := (Prod.mk.inj (List.cons.inj (Option.some.inj hlist)).1).2
      have hpart := List.takeWhile_prefix (l := text.toList) fun c => c != '&' && c != '#'
      obtain ⟨hwhole, hplain⟩ := (formText_prefix_iff hpart).mp hread
      have hmarks := List.takeWhile_eq_self_iff.mp hwhole
      exact ⟨fun hmem => absurd (hmarks _ hmem) (by decide),
        fun hmem => absurd (hmarks _ hmem) (by decide), hplain⟩
  · intro hliteral
    have hname : formText name.toList = some name :=
      (formText_prefix_iff (List.prefix_refl _)).mpr ⟨rfl, hliteral.2.2⟩
    have hversion : formField ("version=" ++ apiVersion).toList = some ("version", apiVersion) := by
      decide +kernel
    have hgeneration : formField "generation=2".toList = some ("generation", "2") := by
      decide +kernel
    rw [formFields, query_search_of_literal hbase hcollection hliteral]
    simp only [List.mapM_cons, List.mapM_nil, formField_name, hname, hversion, hgeneration]
    rfl

end Search

end Reconciler.Http
