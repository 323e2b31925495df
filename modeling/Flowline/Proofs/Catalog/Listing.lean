import Flowline.Check.Offline
import Flowline.Engine.Client
import Flowline.Proofs.Catalog.Sharing
import Flowline.Proofs.Draft.Reading
import Flowline.Proofs.Draft.Repair
import Flowline.Proofs.Engine.Lone
import Flowline.Proofs.Flow.Decoding
import Flowline.Proofs.Text.Utf8

/-!
The text of a listing of pieces, read offline and read by a server that gets it from the engine.
Both come to the same catalog, whether the pieces stand there bare or as the member `data` of an
object.
-/
namespace Flowline
open Json

namespace Json
open Json.Parser

variable {text : String} {v : Json}

/-- A text that is read as a value does not begin with a byte order mark. -/
theorem dropMark_of_parse (h : parse text = .ok v) : Text.dropMark text.toList = text.toList := by
  obtain ⟨c, tail, hskip, hstart⟩ := exists_start_of_parse h
  rw [Text.dropMark.eq_def]
  split
  · next cs heq =>
    rw [heq] at hskip
    obtain ⟨rfl, -⟩ := List.cons.inj hskip
    exact absurd hstart (by decide)
  · rfl

theorem isBlankText_of_parse (h : parse text = .ok v) : Text.isBlankText text = false := by
  obtain ⟨c, tail, hskip, hstart⟩ := exists_start_of_parse h
  have hskipped : c ∈ skip text.toList := hskip ▸ List.mem_cons_self
  have hmem : c ∈ text.toList := (List.dropWhile_sublist isSpace).subset hskipped
  exact List.all_eq_false.2 ⟨c, hmem, by simp [isBlank_of_startsValue hstart]⟩

end Json

namespace Engine

/-- The response 200 with the bytes of a text as its body. -/
def Response.carrying (body : String) : Response := ⟨200, Text.Utf8.decode (Text.bytes body)⟩

theorem Response.value_carrying {body : String} {v : Json} (h : Json.parse body = .ok v) :
    (carrying body).value = .ok v := by
  have hbody : Text.Utf8.decode (Text.bytes body) = body := by
    rw [Text.Utf8.decode_bytes, dropMark_of_parse h, String.ofList_toList]
  simp [value, carrying, hbody, isSuccess, isBlankText_of_parse h, h, Except.mapError]

/-- The client comes by a token, and the engine answers its request for the pieces with 200 and this
body. -/
def Serves (answer : Exchange → Reply) (c : Client) (body : String) : Prop :=
  ∃ token, (c.token.resolve answer).1 = .ok token ∧
    (answer ⟨c.baseUrl, .pieces, some token⟩).outcome = .ok (.carrying body)

namespace Client
variable {c : Client} {answer : Exchange → Reply}

/-- A client that has no valid token goes by the reply to its sign-in. -/
theorem resolve_token (hidle : c.keeper.Idle) (hvalid : c.keeper.valid? = none)
    (hcredentials : c.credentials.areMissing = false) : (c.token.resolve answer).1 =
      Credentials.outcome (answer ⟨c.baseUrl, c.credentials.request, none⟩) := by
  have hshared : c.keeper.shared? c.keeper.attempts = none := by simp [Token.Keeper.shared?]
  simp only [Client.token, Token.Keeper.run_atOnce_get hidle, Token.Keeper.grant, hvalid, hshared,
    signIn, hcredentials]
  rfl

theorem baseUrl_signIn (c : Client) (answer : Exchange → Reply) :
    (c.signIn.resolve answer).2.baseUrl = c.baseUrl := by
  unfold signIn
  split
  · rfl
  · rfl

/-- To come by a token a client does not go to another address. -/
theorem baseUrl_token (c : Client) (answer : Exchange → Reply) :
    (c.token.resolve answer).2.baseUrl = c.baseUrl := by
  unfold token
  split
  · rfl
  · rw [Dialogue.resolve_bind]
    exact baseUrl_signIn _ answer

/-- A client that has a token sends the request with it and goes by the reply. -/
theorem resolve_call {token : String} (h : (c.token.resolve answer).1 = .ok token) (r : Request) :
    ((c.call r).resolve answer).1 = r.result (answer ⟨c.baseUrl, r, some token⟩) := by
  have haddress := c.baseUrl_token answer
  rw [call, Dialogue.resolve_bind]
  generalize c.token.resolve answer = signedIn at h haddress
  obtain ⟨outcome, next⟩ := signedIn
  subst h
  rw [← haddress]
  rfl

theorem resolve_fetch {α : Type} (r : Request) (f : Decode.Decoder α) :
    ((c.fetch r f).resolve answer).1 = ((c.call r).resolve answer).1.bind fun v =>
      (f v).mapError fun e => r.error (.undecodable e.message) := by
  rw [fetch, Dialogue.resolve_bind]
  rfl

theorem resolve_pieces {body : String} {v : Json} {pieces : List Piece}
    (hparse : Json.parse body = .ok v) (hpieces : Decode.listing Piece.ofJson v = .ok pieces)
    (h : Serves answer c body) : (c.pieces.resolve answer).1 = .ok pieces := by
  obtain ⟨token, htoken, hlist⟩ := h
  rw [Client.pieces, resolve_fetch, resolve_call htoken, Request.result, Reply.value, hlist]
  simp only [Response.value_carrying hparse, Except.mapError, Except.bind, hpieces]

end Client
end Engine

namespace Catalog

/-- The value is a list of these elements, bare or as the member `data` of an object. -/
def Lists (elements : List Json) (v : Json) : Prop :=
  v = .arr elements ∨ v.member? "data" = some (.arr elements)

theorem listing_of_lists {elements : List Json} {v : Json} (h : Lists elements v) :
    Decode.listing Piece.ofJson v =
      (elements.mapM Piece.ofJson).mapError fun _ => .noShapeFits "Listing" := by
  rcases h with rfl | h
  · simp only [Decode.listing, Decode.list]
    cases elements.mapM Piece.ofJson <;> rfl
  · obtain ⟨members, hobject, hdata⟩ := Option.bind_eq_some_iff.1 h
    cases v with
    | obj members' =>
      simp only [Decode.listing, Decode.list, h, Option.map]
      cases elements.mapM Piece.ofJson <;> rfl
    | _ => cases hobject

end Catalog

namespace Offline
variable {listing : String} {v : Json} {pieces : List Piece}

theorem catalog_of_parse (hparse : Json.parse listing = .ok v)
    (hpieces : Decode.listing Piece.ofJson v = .ok pieces) :
    catalog (some listing) = .ok (.ofListing (.ok pieces : Except Engine.Error (List Piece))) := by
  have hlisted : listedPieces listing = .ok pieces := by
    simp only [listedPieces, hparse, hpieces, Except.mapError]
  simp only [catalog, hlisted]
  cases pieces <;> rfl

/-- The report on a text that has been read and checked. -/
def Report.ofCheck : Except DraftError Verdict → Report
  | .error e => .unreadable e.message
  | .ok v => .checked v.findings v.refused

theorem check_of_catalog {listing? : Option String} {known : Catalog}
    (h : catalog listing? = .ok known) (text : String) :
    check text listing? = .ofCheck ((Draft.candidate text).map (Candidate.check known {})) := by
  simp only [check, h, checkAgainst]
  cases (Draft.candidate text).map (Candidate.check known {}) <;> rfl

end Offline

namespace Catalog
open Engine

theorem ofListing_eq_builtin_iff {ε : Type} {pieces : List Piece} :
    ofListing (.ok pieces : Except ε (List Piece)) = builtin ↔ pieces = [] := by
  constructor
  · intro h
    have hbuiltin := (isBuiltin_ofListing_iff (.ok pieces : Except ε (List Piece))).1 (h ▸ rfl)
    simpa using hbuiltin
  · rintro rfl
    rfl

/-- A catalog for a value that lists pieces: offline and on a server, every text that is read as the
value gives this catalog. -/
structure IsFor (catalog : Catalog) (v : Json) : Prop where
  offline : ∀ listing, Json.parse listing = .ok v → Offline.catalog (some listing) = .ok catalog
  refreshed : ∀ listing answer c, Json.parse listing = .ok v → Serves answer c listing →
    ∀ r : Registry, (r.refresh (c.pieces.resolve answer).1).current = catalog

theorem isFor_of_listing {v : Json} {pieces : List Piece}
    (h : Decode.listing Piece.ofJson v = .ok pieces) :
    IsFor (ofListing (.ok pieces : Except Engine.Error (List Piece))) v where
  offline listing hparse := Offline.catalog_of_parse hparse h
  refreshed listing answer c hparse hserves r := by
    rw [Client.resolve_pieces hparse h hserves]
    rfl

/-- Offline and on a server a listing is read alike. The check of a text against a listing reports
what the text, read and checked under the standard limits, gives against the catalog of a registry
that has been refreshed from an engine which serves this listing. A list of pieces and every object
with this list as its member `data` give one catalog, which is the built-in one exactly when the
list is empty. -/
theorem listings_read_alike :
    (∀ (listing : String) (v : Json) (pieces : List Piece), Json.parse listing = .ok v →
      Decode.listing Piece.ofJson v = .ok pieces →
      ∀ (answer : Exchange → Reply) (c : Client), Serves answer c listing →
      ∀ (r : Registry) (text : String),
        Offline.check text (some listing) = .ofCheck ((Draft.candidate text).map
          (Candidate.check (r.refresh (c.pieces.resolve answer).1).current {}))) ∧
    ∀ (elements : List Json) (pieces : List Piece), elements.mapM Piece.ofJson = .ok pieces →
      ∃ catalog, (catalog = builtin ↔ elements = []) ∧
        ∀ v, Lists elements v → IsFor catalog v ∧
          ofListing (Decode.listing Piece.ofJson v) = catalog := by
  constructor
  · intro listing v pieces hparse hpieces answer c hserves r text
    have hfor := isFor_of_listing hpieces
    rw [hfor.refreshed listing answer c hparse hserves r]
    exact Offline.check_of_catalog (hfor.offline listing hparse) text
  · intro elements pieces hpieces
    refine ⟨ofListing (.ok pieces : Except Engine.Error (List Piece)), ?_, fun v hlists => ?_⟩
    · rw [ofListing_eq_builtin_iff, ← List.length_eq_zero_iff, Decode.length_of_mapM hpieces,
        List.length_eq_zero_iff]
    · have hlisting : Decode.listing Piece.ofJson v = .ok pieces := by
        rw [listing_of_lists hlists, hpieces]
        rfl
      exact ⟨isFor_of_listing hlisting, by rw [hlisting]; cases pieces <;> rfl⟩

def onePage : String := "\x7b\"data\":[\x7b\"name\":\"a\"\x7d],\"next\":null\x7d"

def oneBare : String := "[\x7b\"name\":\"a\"\x7d]"

def oneElement : List Json := [.obj [("name", .str "a")]]

def onePiece : Piece := ⟨"a", "", "", "", [], .empty, .empty⟩

/-- The engine that signs everybody in and answers every other request with the page. -/
def pageEngine (x : Exchange) : Reply :=
  match x.request.method with
  | .post => ⟨.ok ⟨200, "\x7b\"token\":\"t\"\x7d"⟩, 0⟩
  | .get | .delete => ⟨.ok (.carrying onePage), 0⟩

theorem parse_onePage :
    Json.parse onePage = .ok (.obj [("data", .arr oneElement), ("next", .null)]) :=
  parse_eq_ok rfl rfl

theorem parse_oneBare : Json.parse oneBare = .ok (.arr oneElement) := parse_eq_ok rfl rfl

theorem tokenOf_signedIn : Credentials.tokenOf "\x7b\"token\":\"t\"\x7d" = .ok "t" := by
  have hparse : Json.parse "\x7b\"token\":\"t\"\x7d" = .ok (.obj [("token", .str "t")]) :=
    parse_eq_ok rfl rfl
  rw [Credentials.tokenOf, hparse]
  rfl

theorem serves_onePage : Serves pageEngine (.start "" "" ⟨"u", "p"⟩) onePage :=
  ⟨"t", (Client.resolve_token ⟨rfl, rfl, rfl⟩ rfl (by decide)).trans tokenOf_signedIn, rfl⟩

theorem mapM_oneElement : oneElement.mapM Piece.ofJson = .ok [onePiece] := rfl

/-- The page of one piece is read as the bare list is, and what stands beside the list does not
matter. -/
theorem listings_read_alike_of_page :
    Offline.check "\x7b\x7d" (some onePage) = .ofCheck (.ok (Candidate.check
      (({} : Registry).refresh
        ((Client.start "" "" ⟨"u", "p"⟩).pieces.resolve pageEngine).1).current {} (.obj []))) ∧
    ∃ catalog, catalog ≠ builtin ∧ Offline.catalog (some onePage) = .ok catalog ∧
      Offline.catalog (some oneBare) = .ok catalog := by
  have hlists : Lists oneElement (.obj [("data", .arr oneElement), ("next", .null)]) := .inr rfl
  have hpieces : Decode.listing Piece.ofJson (.obj [("data", .arr oneElement), ("next", .null)]) =
      .ok [onePiece] := by
    rw [listing_of_lists hlists, mapM_oneElement]
    rfl
  constructor
  · have h := listings_read_alike.1 onePage _ _ parse_onePage hpieces pageEngine _ serves_onePage {}
      "\x7b\x7d"
    rw [Draft.candidate_braces] at h
    exact h
  · obtain ⟨catalog, hbuiltin, h⟩ := listings_read_alike.2 oneElement [onePiece] mapM_oneElement
    refine ⟨catalog, fun heq => ?_, (h _ hlists).1.offline onePage parse_onePage,
      (h _ (.inl rfl)).1.offline oneBare parse_oneBare⟩
    cases hbuiltin.1 heq

end Catalog
end Flowline
