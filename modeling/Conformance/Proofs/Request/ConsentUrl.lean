import Conformance.Proofs.Url.Query
import Conformance.Request.Claims

/-!
# Reading back consent URLs

The text of a consent URL is read as a URL whose query holds the pairs of the endpoint and behind
them the six parameters, each with the very value that was asked for (`consentUrl_reads_back`). All
else but the path is that of the endpoint (`consentUrl_keeps`). Both hold whatever forms the names of
domains have in ASCII, so the endpoint may be at a domain of any name.
-/

namespace Conformance.Claims

/-- The parameters that ask for a consent have the texts of the claims, and a state in any case. -/
theorem consentParameters_eq (claims : KeyMap String) :
    consentParameters claims =
      [("client_id", (claims.get? "iss").getD ""),
        ("response_type", (claims.get? "responseType").getD ""),
        ("scope", (claims.get? "scope").getD ""),
        ("redirect_uri", (claims.get? "redirect_url").getD ""),
        ("state", ((claims.get? "state").filter (· ≠ "")).getD defaultState),
        ("request", requestObject claims)] := by
  have hstate : stateOf claims =
      ((claims.get? "state").filter (· ≠ "")).getD defaultState := by
    unfold stateOf claim
    cases hget : claims.get? "state" with
    | none => rfl
    | some s => by_cases hs : s = "" <;> simp [Option.filter, hs]
  rw [consentParameters, hstate]
  rfl

section

variable [Idna] {endpoint : String} {url : Url}

theorem consentUrl_ok (h : Url.parse endpoint = .ok url) (claims : KeyMap String) :
    consentUrl endpoint claims = .ok (url.appendPairs (consentParameters claims)) := by
  rw [consentUrl, h]

variable [LawfulIdna]

/-- A consent URL that was written is read as what it was, but for its path. -/
theorem parse_render_consentUrl (h : Url.parse endpoint = .ok url) (claims : KeyMap String) :
    ∃ path, Url.parse (url.appendPairs (consentParameters claims)).render =
      .ok { url.appendPairs (consentParameters claims) with path := path } :=
  Url.parse_render (Url.proper_appendPairs (Url.proper_of_parse h) _)
    (Url.isSome_query_appendPairs url _ _)

/-- The pairs of a consent URL are those of the endpoint, and behind them what asks for the consent,
whatever characters the values hold. -/
theorem consentUrl_reads_back (h : Url.parse endpoint = .ok url) (claims : KeyMap String) :
    ∃ u v, consentUrl endpoint claims = .ok u ∧ Url.parse u.render = .ok v ∧
      v.pairs = url.pairs ++
        [("client_id", (claims.get? "iss").getD ""),
          ("response_type", (claims.get? "responseType").getD ""),
          ("scope", (claims.get? "scope").getD ""),
          ("redirect_uri", (claims.get? "redirect_url").getD ""),
          ("state", ((claims.get? "state").filter (· ≠ "")).getD defaultState),
          ("request", requestObject claims)] := by
  obtain ⟨path, hpath⟩ := parse_render_consentUrl h claims
  refine ⟨_, _, consentUrl_ok h claims, hpath, ?_⟩
  rw [← consentParameters_eq]
  exact Url.pairs_appendPairs url (consentParameters claims)

end

/-! ## An endpoint at a domain with an umlaut -/

/-- The name of a domain with an umlaut. -/
def umlautName : List Char := "bücher.example".toList

/-- What it is in ASCII. -/
def umlautForm : List Char := "xn--bcher-kva.example".toList

/-- The forms of names in ASCII, and the one of this name. -/
@[reducible] def bankNames : Idna where
  toAscii? name := if name = umlautName then some umlautForm else Idna.ascii.toAscii? name

theorem bankNames_eq_some_iff {name form : List Char} : bankNames.toAscii? name = some form ↔
    name = umlautName ∧ form = umlautForm ∨ Idna.ascii.toAscii? name = some form := by
  have hnone : Idna.ascii.toAscii? umlautName = none := by decide
  by_cases hname : name = umlautName
  · subst hname
    rw [hnone, show bankNames.toAscii? umlautName = some umlautForm from rfl]
    simp [eq_comm]
  · rw [show bankNames.toAscii? name = Idna.ascii.toAscii? name from if_neg hname]
    simp [hname]

theorem umlautForm_form : Idna.ascii.toAscii? umlautForm = some umlautForm := rfl

theorem bankNames_lawful : @LawfulIdna bankNames :=
  letI := bankNames
  { ascii := by
      intro name form h
      rcases bankNames_eq_some_iff.mp h with ⟨-, rfl⟩ | hascii
      · exact Idna.ascii_lawful.ascii umlautForm_form
      · exact Idna.ascii_lawful.ascii hascii
    again := by
      intro name form h
      refine bankNames_eq_some_iff.mpr (.inr ?_)
      rcases bankNames_eq_some_iff.mp h with ⟨-, rfl⟩ | hascii
      · exact umlautForm_form
      · exact Idna.ascii_lawful.again hascii
    plain := by
      intro name h
      exact bankNames_eq_some_iff.mpr (.inr (Idna.ascii_lawful.plain h)) }

/-- An endpoint that has a query and a fragment. -/
def queriedEndpoint : String := "https://bücher.example/auth?tenant=a%26b&mode#top"

/-- Claims whose values hold the marks of forms, blanks and a letter that is not ASCII. -/
def markedClaims : KeyMap String :=
  KeyMap.ofList [("iss", "a&b=c"), ("redirect_url", "https://tpp.example/cb?x=1#é"),
    ("scope", "openid +%"), ("state", "")]

/-- The endpoint has its own pairs, and the marks shift none of the others. -/
theorem markedClaims_read_back :
    ∃ u v, @consentUrl bankNames queriedEndpoint markedClaims = .ok u ∧
      u.authority = some { host := .domain "xn--bcher-kva.example" } ∧
      @Url.parse bankNames u.render = .ok v ∧
      v.pairs = [("tenant", "a&b"), ("mode", ""), ("client_id", "a&b=c"), ("response_type", ""),
        ("scope", "openid +%"), ("redirect_uri", "https://tpp.example/cb?x=1#é"),
        ("state", "5a6b0d7832a9fb4f80f1170a"), ("request", requestObject markedClaims)] := by
  have hparse : @Url.parse bankNames queriedEndpoint = .ok
      { scheme := "https"
        authority := some { host := .domain "xn--bcher-kva.example" }
        path := .segments ["auth"]
        query := some "tenant=a%26b&mode"
        fragment := some "top" } := by
    rfl
  obtain ⟨u, v, hu, hv, hpairs⟩ :=
    @consentUrl_reads_back bankNames _ _ bankNames_lawful hparse markedClaims
  refine ⟨u, v, hu, ?_, hv, hpairs⟩
  rw [@consentUrl_ok bankNames _ _ hparse] at hu
  cases hu
  rfl

/-- A consent URL leads where the endpoint does: scheme, authority and fragment are those of the
endpoint. -/
theorem consentUrl_keeps [Idna] [LawfulIdna] {endpoint : String} {url : Url}
    (h : Url.parse endpoint = .ok url) (claims : KeyMap String) :
    ∃ u v, consentUrl endpoint claims = .ok u ∧ Url.parse u.render = .ok v ∧
      v.scheme = url.scheme ∧ v.authority = url.authority ∧ v.fragment = url.fragment := by
  obtain ⟨path, hpath⟩ := parse_render_consentUrl h claims
  exact ⟨_, _, consentUrl_ok h claims, hpath, rfl, rfl, rfl⟩

end Conformance.Claims
