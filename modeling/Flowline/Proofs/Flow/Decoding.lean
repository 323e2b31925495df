import Flowline.Flow.Decode
import Flowline.Proofs.Flow.Walk
import Flowline.Proofs.Json.Fields
import Mathlib.Tactic.Common

/-!
What a flow read from JSON holds: the name and the actions that its object names, and in a branch
the children that the object of the branch names, place by place.
-/
namespace Flowline
open Json Decode

theorem Json.Decode.getElem?_of_mapM {α β ε : Type} {f : α → Except ε β} {l : List α} {m : List β}
    (h : l.mapM f = .ok m) {i : Nat} {b : β} (hb : m[i]? = some b) :
    ∃ a, l[i]? = some a ∧ f a = .ok b := by
  induction l generalizing m i with
  | nil =>
    rw [List.mapM_nil] at h
    cases h
    simp at hb
  | cons a rest ih =>
    rw [List.mapM_cons] at h
    obtain ⟨b', hb', h⟩ := bind_eq_ok.1 h
    obtain ⟨m', hm', h⟩ := bind_eq_ok.1 h
    cases h
    cases i with
    | zero =>
      obtain rfl : b' = b := by simpa using hb
      exact ⟨a, rfl, hb'⟩
    | succ i => simpa using ih hm' (by simpa using hb)

theorem Json.Decode.length_of_mapM {α β ε : Type} {f : α → Except ε β} {l : List α} {m : List β}
    (h : l.mapM f = .ok m) : m.length = l.length := by
  induction l generalizing m with
  | nil =>
    rw [List.mapM_nil] at h
    cases h
    rfl
  | cons a rest ih =>
    rw [List.mapM_cons] at h
    obtain ⟨b, -, h⟩ := bind_eq_ok.1 h
    obtain ⟨m', hm', h⟩ := bind_eq_ok.1 h
    cases h
    rw [List.length_cons, List.length_cons, ih hm']

theorem Json.Decode.exists_mapM {α β ε : Type} {f : α → Except ε β} {l : List α}
    (h : ∀ a ∈ l, ∃ b, f a = .ok b) : ∃ m, l.mapM f = .ok m := by
  induction l with
  | nil => exact ⟨[], rfl⟩
  | cons a rest ih =>
    obtain ⟨b, hb⟩ := h a (by simp)
    obtain ⟨m, hm⟩ := ih fun a' ha' => h a' (by simp [ha'])
    exact ⟨b :: m, by rw [List.mapM_cons, hb, hm]; rfl⟩

theorem Json.Decode.list_map {α β : Type} {f : Decoder β} {g : α → Json} {e : α → β} (l : List α)
    (h : ∀ a ∈ l, f (g a) = .ok (e a)) : list f (.arr (l.map g)) = .ok (l.map e) := by
  have hmapM : (l.map g).mapM f = .ok (l.map e) := by
    induction l with
    | nil => rfl
    | cons a rest ih =>
      rw [List.map_cons, List.mapM_cons, h a (by simp), ih fun b hb => h b (by simp [hb])]
      rfl
  exact hmapM

theorem Json.Decode.list_any (elements : List Json) : list any (.arr elements) = .ok elements := by
  simpa using list_map (g := id) (e := id) elements fun v _ => (rfl : any v = .ok v)

theorem Json.Decode.list_strings (l : List String) : list text (strings l) = .ok l := by
  rw [strings]
  simpa using list_map (g := Json.str) (e := id) l fun _ _ => rfl

namespace Trigger
variable {members : Members}

theorem ofJson_schedule (h : assoc "type" members = some (.str "SCHEDULE")) :
    ofJson (.obj members) = scheduleRecord.ofMembers members := by
  rw [ofJson, tagOf, h]
  rfl

theorem ofJson_pieceEvent (h : assoc "type" members = some (.str "PIECE_TRIGGER")) :
    ofJson (.obj members) = pieceEventRecord.ofMembers members := by
  rw [ofJson, tagOf, h]
  rfl

theorem ofJson_webhook (h : assoc "type" members = some (.str "WEBHOOK")) :
    ofJson (.obj members) = webhookRecord.ofMembers members := by
  rw [ofJson, tagOf, h]
  rfl

end Trigger

namespace Action

theorem decodeAll_eq_mapM (elements : List Json) :
    decodeAll elements = elements.mapM (decode true) := by
  induction elements with
  | nil => rw [decodeAll, List.mapM_nil]; rfl
  | cons v rest ih =>
    rw [decodeAll, List.mapM_cons, ih]
    rfl

theorem branchMembers_eq_foldlM (d : Fields) (members : Members) :
    branchMembers d members =
      members.foldlM (fun d m => putBranch d m.1 m.2 (decodeList m.2)) d := by
  induction members generalizing d with
  | nil => rw [branchMembers]; rfl
  | cons m rest ih =>
    rw [branchMembers, List.foldlM_cons]
    simp only [ih]

/-- A branch as a record. Its arms are read as what they hold. -/
def branchRecord : Record Fields Action where
  name := "Branch"
  fields := branchFields
  start := {}
  put d key v := putBranch d key v (decodeList v)
  build := buildBranch

section
variable {buffered : Bool} {members : Members}

theorem decode_piece (h : assoc "type" members = some (.str "PIECE")) :
    decode buffered (.obj members) = pieceRecord.ofMembers members := by
  rw [decode, tagOf, h]
  rfl

theorem decode_code (h : assoc "type" members = some (.str "CODE")) :
    decode buffered (.obj members) = codeRecord.ofMembers members := by
  rw [decode, tagOf, h]
  rfl

theorem decode_branch (h : assoc "type" members = some (.str "BRANCH")) :
    decode buffered (.obj members) = branchRecord.ofMembers members := by
  rw [decode, tagOf, h, Record.ofMembers]
  simp only [branchMembers_eq_foldlM]
  rfl

end

/-- Both spellings of the key of an arm. -/
def armKeys : Arm → List String
  | .onTrue => ["onSuccessActions", "onTrue"]
  | .onFalse => ["onFailureActions", "onFalse"]

def Fields.arm (d : Fields) : Arm → Option (List Action)
  | .onTrue => d.onTrue
  | .onFalse => d.onFalse

/-- The arms of a branch as fields of its record. -/
def armField (arm : Arm) :
    Field (fun d key v => putBranch d key v (decodeList v)) (List Action) where
  slot d := d.arm arm
  keys := armKeys arm
  read := decodeList
  put_key := by
    intro d d' key v hkey h
    cases arm <;> simp only [armKeys, List.mem_cons, List.not_mem_nil, or_false] at hkey <;>
      rcases hkey with rfl | rfl <;> obtain ⟨hnone, a, hread, rfl⟩ := fill_bind_eq_ok.1 h <;>
      exact ⟨hnone, a, hread, rfl⟩
  put_other := by
    intro d d' key v hkey h
    unfold putBranch at h
    split at h
    case h_7 => cases h; rfl
    all_goals
      obtain ⟨_, -, h⟩ := bind_eq_ok.1 h
      cases h
      cases arm <;> simp [armKeys, Fields.arm] at hkey ⊢

theorem kind_of_pieceRecord {members : Members} {a : Action}
    (h : pieceRecord.ofMembers members = .ok a) : a.kind = .piece := by
  obtain ⟨d, -, h⟩ := Record.ofMembers_eq_ok.1 h
  obtain ⟨name, -, h⟩ := bind_eq_ok.1 h
  cases h
  rfl

theorem kind_of_codeRecord {members : Members} {a : Action}
    (h : codeRecord.ofMembers members = .ok a) : a.kind = .code := by
  obtain ⟨d, -, h⟩ := Record.ofMembers_eq_ok.1 h
  obtain ⟨name, -, h⟩ := bind_eq_ok.1 h
  cases h
  rfl

theorem children_of_buildBranch {d : Fields} {a : Action} (h : buildBranch d = .ok a) (arm : Arm) :
    a.children arm = (d.arm arm).getD [] := by
  obtain ⟨name, -, h⟩ := bind_eq_ok.1 h
  cases h
  cases arm <;> rfl

theorem eq_branch_of_tag {buffered : Bool} {s : String} {n : Nat}
    (h : tag buffered tags (.str s) = .ok n) (hpiece : n ≠ 0) (hcode : n ≠ 1) : s = "BRANCH" := by
  by_contra hne
  by_cases hp : "PIECE" = s
  · simp [tag, tags, indexOf, hp] at h
    omega
  · by_cases hc : "CODE" = s
    · simp [tag, tags, indexOf, hp, hc] at h
      omega
    · simp [tag, tags, indexOf, hp, hc, Ne.symm hne] at h

theorem elements_of_decodeList {v : Json} {l : List Action} (h : decodeList v = .ok l) :
    ∃ elements, v = .arr elements ∧ elements.mapM (decode true) = .ok l := by
  cases v <;> simp only [decodeList, reduceCtorEq] at h
  rename_i elements
  exact ⟨elements, rfl, by rw [← decodeAll_eq_mapM, h]⟩

/-- An object read as an action with a child has the tag of a branch, and its members under the
keys of the arm hold the child in its place. -/
theorem child_of_decode {buffered : Bool} {members : Members} {a c : Action} {arm : Arm} {i : Nat}
    (h : decode buffered (.obj members) = .ok a) (hc : (a.children arm)[i]? = some c) :
    (∃ n, tagOf buffered "Action" tags (.obj members) = .ok n ∧ n ≠ 0 ∧ n ≠ 1) ∧
    (∃ m ∈ members, m.1 ∈ armKeys arm) ∧
    ∀ m ∈ members, m.1 ∈ armKeys arm → ∃ elements v, m.2 = .arr elements ∧
      elements[i]? = some v ∧ decode true v = .ok c := by
  rw [decode] at h
  obtain ⟨n, hn, h⟩ := bind_eq_ok.1 h
  split at h
  · have := (kind_of_children hc).symm.trans (kind_of_pieceRecord h)
    cases this
  · have := (kind_of_children hc).symm.trans (kind_of_codeRecord h)
    cases this
  · rename_i hpiece hcode
    obtain ⟨d, hd, h⟩ := bind_eq_ok.1 h
    rw [branchMembers_eq_foldlM] at hd
    rw [children_of_buildBranch (mapError_eq_ok.1 h)] at hc
    refine ⟨⟨n, hn, hpiece, hcode⟩, ?_, ?_⟩
    · by_contra hnone
      have hslot : d.arm arm = _ := (armField arm).slot_of_foldlM hd
        fun m hm hkey => hnone ⟨m, hm, hkey⟩
      rw [hslot] at hc
      cases arm <;> simp [armField, Fields.arm] at hc
    · intro m hm hkey
      obtain ⟨l, hread, hslot⟩ := (armField arm).read_of_mem hd hm hkey
      have hslot : d.arm arm = some l := hslot
      obtain ⟨elements, hv, hl⟩ := elements_of_decodeList hread
      obtain ⟨v, hget, hdecode⟩ := getElem?_of_mapM hl (by simpa [hslot] using hc)
      exact ⟨elements, v, hv, hget, hdecode⟩

end Action

namespace Flow

/-- A member leaves the fields alone that it is not for. -/
theorem put_frame {d d' : Fields} {key : String} {v : Json} (h : record.put d key v = .ok d') :
    (key ∉ ["displayName"] → d'.displayName = d.displayName) ∧
    (key ∉ ["actions"] → d'.actions = d.actions) := by
  simp only [record] at h
  split at h
  case h_8 =>
    cases h
    exact ⟨fun _ => rfl, fun _ => rfl⟩
  all_goals
    obtain ⟨_, -, h⟩ := bind_eq_ok.1 h
    cases h
    simp

def nameField : Field record.put String where
  slot d := d.displayName
  keys := ["displayName"]
  read := text
  put_key := by
    intro d d' key v hkey h
    obtain rfl := List.mem_singleton.1 hkey
    obtain ⟨hnone, a, hread, rfl⟩ := fill_bind_eq_ok.1 h
    exact ⟨hnone, a, hread, rfl⟩
  put_other hkey h := (put_frame h).1 hkey

def actionsField : Field record.put (List Action) where
  slot d := d.actions
  keys := ["actions"]
  read := list (Action.decode false)
  put_key := by
    intro d d' key v hkey h
    obtain rfl := List.mem_singleton.1 hkey
    obtain ⟨hnone, a, hread, rfl⟩ := fill_bind_eq_ok.1 h
    exact ⟨hnone, a, hread, rfl⟩
  put_other hkey h := (put_frame h).2 hkey

theorem read_of_ofJson {members : Members} {flow : Flow} (h : ofJson (.obj members) = .ok flow) :
    (∀ v, ("displayName", v) ∈ members → text v = .ok flow.displayName) ∧
    ∀ v, ("actions", v) ∈ members → list (Action.decode false) v = .ok flow.actions := by
  obtain ⟨d, hd, h⟩ := Record.ofMembers_eq_ok.1 h
  simp only [record, bind_eq_ok, required_eq_ok] at h
  obtain ⟨name, hname, trigger, -, actions, hactions, h⟩ := h
  cases h
  constructor
  · intro v hv
    obtain ⟨s, hread, hslot⟩ := nameField.read_of_mem hd hv (by simp [nameField])
    have hslot : d.displayName = some s := hslot
    rw [hname] at hslot
    cases hslot
    exact hread
  · intro v hv
    obtain ⟨l, hread, hslot⟩ := actionsField.read_of_mem hd hv (by simp [actionsField])
    have hslot : d.actions = some l := hslot
    rw [hactions] at hslot
    cases hslot
    exact hread

end Flow
end Flowline
