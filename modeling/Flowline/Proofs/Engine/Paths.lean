import Flowline.Engine.Request
import Flowline.Proofs.Flow.PathText
import Flowline.Proofs.Text.Percent
import Mathlib.Data.List.Flatten
import Mathlib.Data.List.TakeWhile

/-!
Request paths as they are read again, by the plain rules for segments and queries: what stands
behind the first question mark is a query of parameters, and before it stand segments, all of them
percent-decoded. A client that parses an address before it sends it has rules of its own besides,
such as for backslashes, tabs, blanks at the end and a number sign in a query; these are left out.
Ids stand in paths as they are: one reads back from a query exactly when it has no ampersand and no
escape, and from the end of a path exactly when it has no slash, question mark, number sign or
escape and is not only dots that lead elsewhere.
-/
namespace Flowline.Engine
open Text

/-- The bytes of a name and of its value. -/
abbrev Parameter := List UInt8 × List UInt8

namespace Parameter

/-- A name and its value, each as its bytes. -/
def ofTexts (p : String × String) : Parameter := (bytes p.1, bytes p.2)

/-- The parameter that a part of a query is: its name ends at the first equals sign. -/
def read (part : List Char) : Parameter :=
  (percentDecode (part.takeWhile (· != '=')), percentDecode ((part.dropWhile (· != '=')).drop 1))

/-- The part of a query for a parameter, with nothing encoded. -/
def part (p : String × String) : List Char := p.1.toList ++ '=' :: p.2.toList

end Parameter

/-- The parameters in the query of a path, which begins behind the first question mark and is split
at every ampersand. A number sign in a value does not end it, as it would in an address that a
client parses. -/
def parameters (path : String) : List Parameter :=
  match path.toList.dropWhile (· != '?') with
  | [] => []
  | _ :: query => (query.splitOn '&').map Parameter.read

/-- A query with nothing encoded. -/
def rawQuery : List (String × String) → List Char
  | [] => []
  | [p] => Parameter.part p
  | p :: q :: rest => Parameter.part p ++ '&' :: rawQuery (q :: rest)

/-- A text that reads back from a query where nothing is encoded. -/
def IsPlainValue (s : String) : Prop := '&' ∉ s.toList ∧ ¬ HasEscape s.toList

/-- A plain value without an equals sign. -/
def IsPlainName (s : String) : Prop := '=' ∉ s.toList ∧ IsPlainValue s

namespace Parameter
variable {p : String × String}

theorem read_append {name : List Char} (h : '=' ∉ name) (value : List Char) :
    read (name ++ '=' :: value) = (percentDecode name, percentDecode value) := by
  have hname : ∀ c ∈ name, (c != '=') = true := fun c hc => by
    simpa using ne_of_mem_of_not_mem hc h
  simp [read, List.takeWhile_append_of_pos hname, List.dropWhile_append_of_pos hname]

theorem read_part (hname : IsPlainName p.1) (hvalue : IsPlainValue p.2) :
    '&' ∉ part p ∧ read (part p) = ofTexts p := by
  constructor
  · simp [part, hname.2.1, hvalue.1]
  · rw [part, read_append hname.1, percentDecode_of_not_hasEscape hname.2.2,
      percentDecode_of_not_hasEscape hvalue.2]
    rfl

/-- A value that is not plain is cut short or decoded to something shorter. -/
theorem isPlainValue_of_read (hname : IsPlainName p.1) {tail : List Char} {more : List Parameter}
    (htail : tail = [] ∨ ∃ rest, tail = '&' :: rest)
    (h : ((part p ++ tail).splitOn '&').map read = ofTexts p :: more) : IsPlainValue p.2 := by
  by_cases hmark : '&' ∈ p.2.toList
  · obtain ⟨front, rest, hvalue, hfront⟩ := List.eq_append_cons_of_mem hmark
    have hsplit : part p ++ tail = (p.1.toList ++ '=' :: front) ++ '&' :: (rest ++ tail) := by
      simp [part, hvalue]
    have hpart : '&' ∉ p.1.toList ++ '=' :: front := by simp [hname.2.1, hfront]
    rw [hsplit, List.splitOn_append_cons_self_of_not_mem hpart, List.map_cons,
      read_append hname.1] at h
    have hdecode : percentDecode front = bytesOf p.2.toList :=
      congrArg Prod.snd (List.cons.inj h).1
    have hlength := congrArg List.length hdecode
    have hle := length_percentDecode_le front
    have hpos := length_utf8EncodeChar_pos '&'
    rw [hvalue] at hlength
    simp only [bytesOf_append, bytesOf_cons, List.length_append] at hlength
    omega
  · have hpart : '&' ∉ part p := by simp [part, hname.2.1, hmark]
    have hhead : read (part p) = ofTexts p := by
      rcases htail with rfl | ⟨rest, rfl⟩
      · rw [List.append_nil, List.splitOn_eq_singleton hpart] at h
        exact (List.cons.inj h).1
      · rw [List.splitOn_append_cons_self_of_not_mem hpart] at h
        exact (List.cons.inj h).1
    rw [part, read_append hname.1] at hhead
    exact ⟨hmark, percentDecode_eq_iff.1 (congrArg Prod.snd hhead)⟩

end Parameter
open Parameter

/-- A query with nothing encoded gives its parameters back exactly when all values are plain. -/
theorem read_rawQuery_iff {ps : List (String × String)} (hne : ps ≠ [])
    (hnames : ∀ p ∈ ps, IsPlainName p.1) :
    ((rawQuery ps).splitOn '&').map read = ps.map ofTexts ↔ ∀ p ∈ ps, IsPlainValue p.2 := by
  induction ps with
  | nil => exact absurd rfl hne
  | cons p rest ih =>
    have hname := hnames p (by simp)
    cases rest with
    | nil =>
      rw [rawQuery, List.forall_mem_singleton]
      constructor
      · intro h
        rw [← List.append_nil (part p)] at h
        exact isPlainValue_of_read hname (.inl rfl) h
      · intro h
        obtain ⟨hpart, hread⟩ := read_part hname h
        simp [List.splitOn_eq_singleton hpart, hread]
    | cons q rest =>
      rw [rawQuery]
      have ih := ih (by simp) fun p hp => hnames p (List.mem_cons_of_mem _ hp)
      constructor
      · intro h
        have hvalue := isPlainValue_of_read hname (.inr ⟨_, rfl⟩) h
        obtain ⟨hpart, -⟩ := read_part hname hvalue
        rw [List.splitOn_append_cons_self_of_not_mem hpart] at h
        exact List.forall_mem_cons.2 ⟨hvalue, ih.1 (List.cons.inj h).2⟩
      · intro h
        obtain ⟨hvalue, hrest⟩ := List.forall_mem_cons.1 h
        obtain ⟨hpart, hread⟩ := read_part hname hvalue
        rw [List.splitOn_append_cons_self_of_not_mem hpart, List.map_cons, hread, ih.2 hrest]
        rfl

theorem parameters_eq_iff (front : List Char) {path : String} {ps : List (String × String)}
    (hpath : path.toList = front ++ '?' :: rawQuery ps) (hfront : '?' ∉ front) (hne : ps ≠ [])
    (hnames : ∀ p ∈ ps, IsPlainName p.1) :
    parameters path = ps.map ofTexts ↔ ∀ p ∈ ps, IsPlainValue p.2 := by
  have hmark : ∀ c ∈ front, (c != '?') = true := fun c hc => by
    simpa using ne_of_mem_of_not_mem hc hfront
  rw [← read_rawQuery_iff hne hnames, parameters, hpath, List.dropWhile_append_of_pos hmark]
  rfl

theorem isPlainValue_repr (n : Nat) : IsPlainValue n.repr := by
  have h (c : Char) (hc : c.isDigit = false) : c ∉ n.repr.toList := by
    rw [Nat.toList_repr]
    exact not_mem_toDigits hc n
  exact ⟨h '&' rfl, not_hasEscape_of_notMem (h '%' rfl)⟩

theorem isPlainName_of_forall {s : String} (h : ∀ c ∈ ['=', '&', '%'], c ∉ s.toList) :
    IsPlainName s :=
  ⟨h '=' (by simp), h '&' (by simp), not_hasEscape_of_notMem (h '%' (by simp))⟩

namespace Request

theorem parameters_listFlows_iff (project : String) (limit : Nat) :
    parameters (listFlows project limit).path =
        [("limit", toString limit), ("projectId", project)].map ofTexts ↔
      IsPlainValue project := by
  rw [parameters_eq_iff flowsPath.toList]
  · simp [isPlainValue_repr]
  · simp [listFlows, bare, rawQuery, part]
  · decide
  · simp
  · simp [isPlainName_of_forall]

theorem parameters_listConnections_iff (project : String) :
    parameters (listConnections project).path = [("projectId", project)].map ofTexts ↔
      IsPlainValue project := by
  rw [parameters_eq_iff "/api/v1/connections".toList]
  · simp
  · simp [listConnections, bare, rawQuery, part]
  · decide
  · simp
  · simp [isPlainName_of_forall]

theorem parameters_listRuns_iff (project : String) (limit : Nat) :
    parameters (listRuns project none limit).path =
        [("limit", toString limit), ("projectId", project)].map ofTexts ↔
      IsPlainValue project := by
  rw [parameters_eq_iff "/api/v1/flow-runs".toList]
  · simp [isPlainValue_repr]
  · simp [listRuns, bare, rawQuery, part]
  · decide
  · simp
  · simp [isPlainName_of_forall]

theorem parameters_listRuns_some_iff (project flow : String) (limit : Nat) :
    parameters (listRuns project (some flow) limit).path =
        [("flowId", flow), ("limit", toString limit)].map ofTexts ↔
      IsPlainValue flow := by
  rw [parameters_eq_iff "/api/v1/flow-runs".toList]
  · simp [isPlainValue_repr]
  · simp [listRuns, bare, rawQuery, part]
  · decide
  · simp
  · simp [isPlainName_of_forall]

end Request

/-- The segments of a path, which stand between its slashes and end before any query and fragment.
The first slash only begins the path. Backslashes, tabs and blanks at the end are characters like
others, while a client that parses the address may read a slash for them or drop them. -/
def segments (path : String) : List (List UInt8) :=
  (((path.toList.takeWhile fun c => c != '?' && c != '#').drop 1).splitOn '/').map percentDecode

/-- Where one more segment leads: a dot stays in place and two dots go back. -/
def along (front : List (List UInt8)) (s : List UInt8) : List (List UInt8) :=
  if s = bytes "." then front
  else if s = bytes ".." then front.dropLast
  else front ++ [s]

/-- Where segments lead. Dots at the end lead to the empty segment there. -/
def resolve (ss : List (List UInt8)) : List (List UInt8) :=
  ss.foldl along [] ++
    if ss.getLast? = some (bytes ".") ∨ ss.getLast? = some (bytes "..") then [[]] else []

/-- What a path addresses by the plain rules: its segments, with dots resolved. It need not be what
a client asks for that parses the address by further rules. -/
def target (path : String) : List (List UInt8) := resolve (segments path)

/-- Where all flows are. -/
def flowsPlace : List (List UInt8) := ["api", "v1", "flows"].map bytes

/-- A text that reads back from the end of a path where nothing is encoded, by the plain rules. Of
backslashes, tabs and blanks, which only a client's own rules single out, it says nothing. -/
structure IsPlainSegment (s : String) : Prop where
  separators : ∀ c ∈ ['/', '?', '#'], c ∉ s.toList
  escapes : ¬ HasEscape s.toList
  dots : s ∉ [".", ".."]

theorem mem_of_mem_along {front : List (List UInt8)} {s t : List UInt8} (h : t ∈ along front s) :
    t ∈ front ∨ t = s := by
  simp only [along] at h
  split_ifs at h
  · exact .inl h
  · exact .inl (List.mem_of_mem_dropLast h)
  · simpa using h

theorem mem_of_mem_foldl_along {front ss : List (List UInt8)} {t : List UInt8}
    (h : t ∈ ss.foldl along front) : t ∈ front ∨ t ∈ ss := by
  induction ss generalizing front with
  | nil => exact .inl h
  | cons s ss ih =>
    rcases ih h with h | h
    · rcases mem_of_mem_along h with h | rfl
      · exact .inl h
      · exact .inr List.mem_cons_self
    · exact .inr (List.mem_cons_of_mem _ h)

theorem mem_of_mem_resolve {ss : List (List UInt8)} {t : List UInt8} (h : t ∈ resolve ss)
    (hne : t ≠ []) : t ∈ ss := by
  rcases List.mem_append.1 h with h | h
  · simpa using mem_of_mem_foldl_along h
  · split_ifs at h <;> simp_all

theorem resolve_concat (ss : List (List UInt8)) (s : List UInt8) :
    resolve (ss ++ [s]) = along (ss.foldl along []) s ++
      if s = bytes "." ∨ s = bytes ".." then [[]] else [] := by
  simp [resolve]

/-- Only a segment that is no dot stands behind the place of all flows as it is. -/
theorem resolve_flowsPlace_concat_iff {s t : List UInt8} (ht : t = [] → s = []) :
    resolve (flowsPlace ++ [s]) = flowsPlace ++ [t] ↔ s = t ∧ s ≠ bytes "." ∧ s ≠ bytes ".." := by
  have hplace : flowsPlace.foldl along [] = flowsPlace := by decide
  rw [resolve_concat, hplace, along]
  by_cases hdot : s = bytes "."
  · have hne : [] ≠ t := fun h => by simp [ht h.symm, bytes] at hdot
    simp [hdot, hne]
  by_cases hdots : s = bytes ".."
  · rw [if_neg hdot, if_pos hdots]
    simp [hdots, flowsPlace]
  · simp [hdot, hdots]

theorem sublist_of_mem_splitOn {c : Char} {cs part : List Char} (h : part ∈ cs.splitOn c) :
    part.Sublist cs := by
  induction cs generalizing part with
  | nil => simp_all
  | cons d cs ih =>
    rw [List.splitOn_cons_eq_if_modifyHead] at h
    split_ifs at h with hd
    · rcases List.mem_cons.1 h with rfl | h
      · exact List.nil_sublist _
      · exact (ih h).cons _
    · obtain ⟨first, parts, hparts⟩ := List.exists_cons_of_ne_nil (List.splitOn_ne_nil c cs)
      rw [hparts] at ih h
      rcases List.mem_cons.1 h with rfl | h
      · exact (ih List.mem_cons_self).cons_cons _
      · exact (ih (List.mem_cons_of_mem _ h)).cons _

/-- The parts of a text are shorter than the text is. -/
theorem length_percentDecode_lt_of_mem_splitOn {c : Char} {cs part : List Char} (hc : c ∈ cs)
    (h : part ∈ cs.splitOn c) : (percentDecode part).length < (bytesOf cs).length := by
  obtain ⟨front, rest, rfl, hfront⟩ := List.eq_append_cons_of_mem hc
  have hdecode := length_percentDecode_le part
  have hpos := length_utf8EncodeChar_pos c
  rw [List.splitOn_append_cons_self_of_not_mem hfront] at h
  simp only [bytesOf_append, bytesOf_cons, List.length_append]
  rcases List.mem_cons.1 h with rfl | h
  · omega
  · have hle : (bytesOf part).length ≤ (bytesOf rest).length :=
      ((sublist_of_mem_splitOn h).flatMap _).length_le
    omega

theorem toList_flowPath (flow : String) :
    (Request.flowPath flow).toList = "/api/v1/flows/".toList ++ flow.toList := by
  simp [Request.flowPath, Request.flowsPath]

theorem segments_flowPath {flow : String} (hmark : '?' ∉ (Request.flowPath flow).toList)
    (hnumber : '#' ∉ (Request.flowPath flow).toList) :
    segments (Request.flowPath flow) =
      flowsPlace ++ (flow.toList.splitOn '/').map percentDecode := by
  have hwhole : (Request.flowPath flow).toList.takeWhile (fun c => c != '?' && c != '#') =
      (Request.flowPath flow).toList := by
    rw [List.takeWhile_eq_self_iff]
    intro c hc
    simp [ne_of_mem_of_not_mem hc hmark, ne_of_mem_of_not_mem hc hnumber]
  have hparts : (Request.flowPath flow).toList.drop 1 =
      "api".toList ++ '/' :: ("v1".toList ++ '/' :: ("flows".toList ++ '/' :: flow.toList)) := by
    rw [toList_flowPath]
    rfl
  rw [segments, hwhole, hparts, List.splitOn_append_cons_self_of_not_mem (by decide),
    List.splitOn_append_cons_self_of_not_mem (by decide),
    List.splitOn_append_cons_self_of_not_mem (by decide)]
  rfl

theorem notMem_flowPath_iff {c : Char} (hc : c ∉ "/api/v1/flows/".toList) {flow : String} :
    c ∉ (Request.flowPath flow).toList ↔ c ∉ flow.toList := by
  rw [toList_flowPath, List.mem_append, not_or]
  exact and_iff_right hc

/-- An id with a slash is not the end of what its path addresses. -/
theorem notMem_slash_of_target {flow : String} (hmark : '?' ∉ (Request.flowPath flow).toList)
    (hnumber : '#' ∉ (Request.flowPath flow).toList)
    (h : target (Request.flowPath flow) = flowsPlace ++ [bytes flow]) : '/' ∉ flow.toList := by
  intro hslash
  have hne : bytes flow ≠ [] := by
    obtain ⟨front, rest, hflow, -⟩ := List.eq_append_cons_of_mem hslash
    simp [bytes, hflow, String.utf8EncodeChar_ne_nil]
  have hend : bytes flow ∈ resolve (segments (Request.flowPath flow)) := by
    rw [target] at h
    simp [h]
  rw [segments_flowPath hmark hnumber] at hend
  rcases List.mem_append.1 (mem_of_mem_resolve hend hne) with hfront | hpart
  · obtain ⟨name, hname, heq⟩ := List.mem_map.1 hfront
    have hnone : ∀ name ∈ ["api", "v1", "flows"], '/' ∉ name.toList := by decide
    exact hnone name hname (bytes_inj.1 heq ▸ hslash)
  · obtain ⟨part, hpart, heq⟩ := List.mem_map.1 hpart
    exact absurd (congrArg List.length heq) (length_percentDecode_lt_of_mem_splitOn hslash hpart).ne

/-- A flow's path addresses it, without a query and fragment, exactly when its id is plain. -/
theorem target_flowPath_iff (flow : String) :
    target (Request.flowPath flow) = flowsPlace ++ [bytes flow] ∧
        (∀ c ∈ ['?', '#'], c ∉ (Request.flowPath flow).toList) ↔
      IsPlainSegment flow := by
  have hempty : bytesOf flow.toList = [] → percentDecode flow.toList = [] := fun h => by
    have hlength := length_percentDecode_le flow.toList
    rw [h] at hlength
    exact List.length_eq_zero_iff.1 (Nat.le_zero.1 hlength)
  constructor
  · rintro ⟨h, hnone⟩
    have hmark := hnone '?' (by simp)
    have hnumber := hnone '#' (by simp)
    have hslash := notMem_slash_of_target hmark hnumber h
    rw [target, segments_flowPath hmark hnumber, List.splitOn_eq_singleton hslash,
      List.map_singleton, bytes, resolve_flowsPlace_concat_iff hempty, percentDecode_eq_iff] at h
    obtain ⟨hescape, hdot, hdots⟩ := h
    rw [percentDecode_of_not_hasEscape hescape] at hdot hdots
    refine ⟨?_, hescape, ?_⟩
    · rw [notMem_flowPath_iff (by decide)] at hmark hnumber
      simp [hslash, hmark, hnumber]
    · simp only [List.mem_cons, List.not_mem_nil, or_false, not_or, ← bytes_inj]
      exact ⟨hdot, hdots⟩
  · intro h
    have hmark := (notMem_flowPath_iff (by decide)).2 (h.separators '?' (by simp))
    have hnumber := (notMem_flowPath_iff (by decide)).2 (h.separators '#' (by simp))
    have hdots := h.dots
    simp only [List.mem_cons, List.not_mem_nil, or_false, not_or, ← bytes_inj] at hdots
    refine ⟨?_, by simp [hmark, hnumber]⟩
    rw [target, segments_flowPath hmark hnumber,
      List.splitOn_eq_singleton (h.separators '/' (by simp)), List.map_singleton, bytes,
      resolve_flowsPlace_concat_iff hempty, percentDecode_of_not_hasEscape h.escapes]
    exact ⟨rfl, hdots⟩

namespace Request

/-- The requests for one flow. -/
def ofFlow (flow : String) (m : Mutation) : List Request := [get flow, delete flow, apply flow m]

theorem path_of_mem_ofFlow {flow : String} {m : Mutation} {r : Request} (h : r ∈ ofFlow flow m) :
    r.path = flowPath flow := by
  simp only [ofFlow, List.mem_cons, List.not_mem_nil, or_false] at h
  rcases h with rfl | rfl | rfl <;> rfl

/-- What requests are for reads back from their paths exactly when the ids are plain, and requests
for flows with different plain ids address different things. -/
theorem paths_carry_iff (project flow other : String) (limit : Nat) (m m' : Mutation) :
    (parameters (listFlows project limit).path =
        [("limit", toString limit), ("projectId", project)].map ofTexts ↔
      IsPlainValue project) ∧
    (parameters (listConnections project).path = [("projectId", project)].map ofTexts ↔
      IsPlainValue project) ∧
    (parameters (listRuns project none limit).path =
        [("limit", toString limit), ("projectId", project)].map ofTexts ↔
      IsPlainValue project) ∧
    (parameters (listRuns project (some flow) limit).path =
        [("flowId", flow), ("limit", toString limit)].map ofTexts ↔
      IsPlainValue flow) ∧
    (∀ r ∈ ofFlow flow m,
      (target r.path = flowsPlace ++ [bytes flow] ∧ ∀ c ∈ ['?', '#'], c ∉ r.path.toList) ↔
        IsPlainSegment flow) ∧
    (IsPlainSegment flow → IsPlainSegment other → flow ≠ other →
      ∀ r ∈ ofFlow flow m, ∀ r' ∈ ofFlow other m', target r.path ≠ target r'.path) := by
  refine ⟨parameters_listFlows_iff project limit, parameters_listConnections_iff project,
    parameters_listRuns_iff project limit, parameters_listRuns_some_iff project flow limit, ?_, ?_⟩
  · intro r hr
    rw [path_of_mem_ofFlow hr]
    exact target_flowPath_iff flow
  · intro hflow hother hne r hr r' hr' h
    rw [path_of_mem_ofFlow hr, path_of_mem_ofFlow hr', ((target_flowPath_iff flow).2 hflow).1,
      ((target_flowPath_iff other).2 hother).1] at h
    exact hne (bytes_inj.1 (List.singleton_inj.1 (List.append_cancel_left h)))

theorem paths_carry_plain :
    parameters (listRuns "proj_1" (some "flow_9") 10).path =
        [("flowId", "flow_9"), ("limit", "10")].map ofTexts ∧
      target (delete "flow_9").path = flowsPlace ++ [bytes "flow_9"] ∧
      target (delete "flow_9").path ≠ target (get "flow_8").path := by
  have hnone : ∀ s ∈ ["flow_9", "flow_8"],
      (∀ c ∈ ['&', '%', '/', '?', '#'], c ∉ s.toList) ∧ s ∉ [".", ".."] := by simp
  have hplain : ∀ s ∈ ["flow_9", "flow_8"], IsPlainValue s ∧ IsPlainSegment s := by
    intro s hs
    obtain ⟨hnone, hdots⟩ := hnone s hs
    have hescape : ¬ HasEscape s.toList := not_hasEscape_of_notMem (hnone '%' (by simp))
    exact ⟨⟨hnone '&' (by simp), hescape⟩, fun c hc => hnone c (by simp_all), hescape, hdots⟩
  have hflow := hplain "flow_9" (by simp)
  have hother := hplain "flow_8" (by simp)
  have hmem : delete "flow_9" ∈ ofFlow "flow_9" .publish := by simp [ofFlow]
  obtain ⟨-, -, -, hruns, htarget, hdiffer⟩ :=
    paths_carry_iff "proj_1" "flow_9" "flow_8" 10 .publish .publish
  exact ⟨hruns.2 hflow.1, ((htarget _ hmem).2 hflow.2).1,
    hdiffer hflow.2 hother.2 (by decide) _ hmem _ (by simp [ofFlow])⟩

/-- An ampersand in an id ends it and adds a parameter, and a question mark makes requests for one
flow address another. -/
theorem paths_cut :
    parameters (listRuns "proj_1" (some "a&b") 10).path =
        [("flowId", "a"), ("b", ""), ("limit", "10")].map ofTexts ∧
      target (delete "a?b").path = target (delete "a").path := by
  decide

end Request

end Flowline.Engine
