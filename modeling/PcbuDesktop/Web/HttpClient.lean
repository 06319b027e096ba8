import Mathlib.Data.List.Chain
import PcbuDesktop.Basic.Text

set_option autoImplicit false

/-! # `HttpClient`

`HttpClient::Send` (`connection/web/HttpClient.cpp`) makes a request and follows the redirects of the
replies. Every target is resolved against the URL before it, and is looked at twice: when the redirect is
accepted, and when the request to it is made. Only neighbors are compared for a downgrade from HTTPS to
HTTP; that no later request is less secure than an earlier one follows over the whole chain.

The URLs are those of Boost.URL, which is a parameter here, and so is everything that a server replies.
-/

namespace PcbuDesktop

/-! ## The data -/

/-- `boost::urls::scheme`, as far as it is compared. -/
inductive UrlScheme where
  | http
  | https
  | other
  deriving DecidableEq, Repr

/-- Boost.URL: parsed URLs and references, and the members that are read. -/
structure UrlLib (Url Ref : Type) where
  parseUri : Str → Option Url
  parseUriReference : Str → Option Ref
  /-- the text of the base after `resolve`, if that succeeds -/
  resolve : Url → Ref → Option Str
  schemeId : Url → UrlScheme
  host : Url → Str
  /-- `has_port()` and `port()` -/
  port : Url → Option Str
  encodedTarget : Url → Str
  encodedHostAndPort : Url → Str

structure Endpoint where
  host : Str := []
  port : Str := []
  target : Str := []
  hostHeader : Str := []
  secure : Bool := false
  deriving DecidableEq, Repr

structure HttpResponse where
  ok : Bool := false
  status : Int := 0
  body : Str := []
  error : Str := []
  headers : List (Str × Str) := []
  deriving DecidableEq, Repr

/-- `tolower` in the C locale. -/
def toLower (c : UInt8) : UInt8 := if 65 ≤ c ∧ c ≤ 90 then c + 32 else c

/-- `HttpResponse::GetHeader`: the first field of the name in any case. -/
def HttpResponse.getHeader (response : HttpResponse) (name : Str) : Str :=
  match response.headers.find? (fun field =>
    field.1.length = name.length && field.1.map toLower = name.map toLower) with
  | some field => field.2
  | none => []

inductive HttpVerb where
  | get
  | post
  deriving DecidableEq, Repr

/-- What every exchange of one call sends; `download` says that there is a `DownloadSink`. -/
structure HttpRequest where
  method : HttpVerb
  body : Str := []
  contentType : Str := []
  download : Bool := false
  deriving DecidableEq, Repr

/-- What happens around `Send`: the value of `m_Canceled` before the exchange of a hop, and the result of
the exchange. -/
structure HttpWorld where
  canceled : Nat → Bool
  sendOnce : Nat → Endpoint → HttpRequest → HttpResponse

/-! ## `Send` -/

namespace HttpClient

section

variable {Url Ref : Type}

def isRedirect (status : Int) : Bool :=
  status = 301 || status = 302 || status = 303 || status = 307 || status = 308

def parseUrl (lib : UrlLib Url Ref) (url : Str) : Option Endpoint :=
  match lib.parseUri url with
  | none => none
  | some view =>
      if lib.schemeId view ≠ .http ∧ lib.schemeId view ≠ .https then none
      else
        let secure := decide (lib.schemeId view = .https)
        if lib.host view = [] then none
        else some
          { host := lib.host view
            port := (lib.port view).getD (if secure then str "443" else str "80")
            target := if lib.encodedTarget view = [] then str "/" else lib.encodedTarget view
            hostHeader := lib.encodedHostAndPort view
            secure := secure }

def resolveRedirect (lib : UrlLib Url Ref) (baseUrl location : Str) : Str :=
  match lib.parseUri baseUrl, lib.parseUriReference location with
  | some base, some ref => (lib.resolve base ref).getD []
  | _, _ => []

/-- One exchange: the URL, the endpoint that was contacted, and the reply. -/
structure Hop where
  url : Str
  endpoint : Endpoint
  reply : HttpResponse
  deriving DecidableEq, Repr

/-- What `Send` returns, and the exchanges it has made. -/
structure Sent where
  response : HttpResponse
  hops : List Hop := []
  deriving DecidableEq, Repr

def Sent.fail (error : String) : Sent := { response := { ok := false, error := str error } }

/-- What `Send` does with a redirect: the URL to go on with, or the response to return. -/
def follow (lib : UrlLib Url Ref) (currentUrl : Str) (endpoint : Endpoint) (response : HttpResponse) :
    Except HttpResponse Str :=
  let location := response.getHeader (str "location")
  if location = [] then .error response
  else
    let nextUrl := resolveRedirect lib currentUrl location
    match if nextUrl = [] then none else parseUrl lib nextUrl with
    | none => .error { response with ok := false, error := str "Invalid redirect target." }
    | some nextEndpoint =>
        if endpoint.secure = true ∧ nextEndpoint.secure = false then
          .error { response with
            ok := false
            error := str "Refusing to follow a redirect from HTTPS to HTTP." }
        else .ok nextUrl

/-- The loop of `Send`, with as many rounds as are left: `hop <= maxRedirects` holds for the next one
as long as there is one. -/
def sendLoop (lib : UrlLib Url Ref) (world : HttpWorld) (request : HttpRequest) (maxRedirects : Int) :
    Nat → Nat → Str → Sent
  | 0, _, _ => .fail "Too many redirects."
  | rounds + 1, hop, currentUrl =>
      if world.canceled hop = true then .fail "Canceled."
      else
        match parseUrl lib currentUrl with
        | none => .fail "Invalid URL."
        | some endpoint =>
            let response := world.sendOnce hop endpoint request
            let exchange : Hop := { url := currentUrl, endpoint := endpoint, reply := response }
            if response.ok = false ∨ (hop : Int) ≥ maxRedirects ∨ isRedirect response.status = false then
              { response := response, hops := [exchange] }
            else
              match follow lib currentUrl endpoint response with
              | .error final => { response := final, hops := [exchange] }
              | .ok nextUrl =>
                  let rest := sendLoop lib world request maxRedirects rounds (hop + 1) nextUrl
                  { rest with hops := exchange :: rest.hops }

/-- `HttpClient::Send`. -/
def send (lib : UrlLib Url Ref) (world : HttpWorld) (request : HttpRequest) (maxRedirects : Int) (url : Str) :
    Sent :=
  sendLoop lib world request maxRedirects (maxRedirects + 1).toNat 0 url

def get (lib : UrlLib Url Ref) (world : HttpWorld) (maxRedirects : Int) (url : Str) : Sent :=
  send lib world { method := .get } maxRedirects url

def post (lib : UrlLib Url Ref) (world : HttpWorld) (maxRedirects : Int) (url body contentType : Str) :
    Sent :=
  send lib world { method := .post, body := body, contentType := contentType } maxRedirects url

/-- `Download`; `onData` says that there is a handler. -/
def download (lib : UrlLib Url Ref) (world : HttpWorld) (maxRedirects : Int) (url : Str) (onData : Bool) :
    Sent :=
  if onData = false then .fail "No download handler given."
  else send lib world { method := .get, download := true } maxRedirects url

/-! ## One round -/

/-- The reply is a redirect that must not be followed: its target is no URL of an endpoint, or it leads
from HTTPS to HTTP. -/
def Refused (lib : UrlLib Url Ref) (hop : Hop) : Prop :=
  hop.reply.ok = true ∧ isRedirect hop.reply.status = true ∧ hop.reply.getHeader (str "location") ≠ [] ∧
    (parseUrl lib (resolveRedirect lib hop.url (hop.reply.getHeader (str "location"))) = none ∨
      resolveRedirect lib hop.url (hop.reply.getHeader (str "location")) = [] ∨
      (hop.endpoint.secure = true ∧
        ∃ next, parseUrl lib (resolveRedirect lib hop.url (hop.reply.getHeader (str "location"))) =
          some next ∧ next.secure = false))

variable {lib : UrlLib Url Ref} {world : HttpWorld} {request : HttpRequest} {maxRedirects : Int}

/-- A target that is followed has an endpoint, and is no downgrade. -/
theorem follow_ok {url nextUrl : Str} {endpoint : Endpoint} {response : HttpResponse}
    (h : follow lib url endpoint response = .ok nextUrl) :
    nextUrl = resolveRedirect lib url (response.getHeader (str "location")) ∧ nextUrl ≠ [] ∧
    ∃ next, parseUrl lib nextUrl = some next ∧ (endpoint.secure = true → next.secure = true) := by
  unfold follow at h
  dsimp only at h
  split at h
  · cases h
  · split at h
    · cases h
    · next nextEndpoint hparse =>
        split at h
        · cases h
        · next hsecure =>
            cases h
            by_cases hempty : resolveRedirect lib url (response.getHeader (str "location")) = []
            · rw [if_pos hempty] at hparse
              cases hparse
            · rw [if_neg hempty] at hparse
              refine ⟨rfl, hempty, nextEndpoint, hparse, ?_⟩
              intro hs
              rw [← Bool.not_eq_false]
              exact fun hplain => hsecure ⟨hs, hplain⟩

/-- What is returned for a redirect that is not followed: the reply itself if it has no target. -/
theorem follow_error {url : Str} {endpoint : Endpoint} {response final : HttpResponse}
    (h : follow lib url endpoint response = .error final) :
    (response.getHeader (str "location") = [] ∧ final = response) ∨ final.ok = false := by
  unfold follow at h
  dsimp only at h
  split at h
  · next hempty =>
      cases h
      exact Or.inl ⟨hempty, rfl⟩
  · split at h
    · cases h
      exact Or.inr rfl
    · split at h
      · cases h
        exact Or.inr rfl
      · cases h

/-- A refused redirect is not followed. -/
theorem Refused.follow_ne_ok {hop : Hop} (h : Refused lib hop) (nextUrl : Str) :
    follow lib hop.url hop.endpoint hop.reply ≠ .ok nextUrl := by
  intro hok
  obtain ⟨rfl, hne, next, hparse, hsecure⟩ := follow_ok hok
  rcases h.2.2.2 with hnone | hempty | ⟨hs, other, hother, hplain⟩
  · rw [hnone] at hparse
    cases hparse
  · exact hne hempty
  · rw [hparse] at hother
    cases hother
    rw [hsecure hs] at hplain
    cases hplain

/-- The exchange that a round makes. -/
structure Hop.Made (lib : UrlLib Url Ref) (world : HttpWorld) (request : HttpRequest) (hop : Nat) (url : Str)
    (exchange : Hop) : Prop where
  url_eq : exchange.url = url
  endpoint_eq : parseUrl lib url = some exchange.endpoint
  reply_eq : exchange.reply = world.sendOnce hop exchange.endpoint request

/-- One round of the loop: no exchange, the last one, or one that is followed by the rest. -/
theorem sendLoop_cases (rounds hop : Nat) (url : Str) :
    (∃ error, sendLoop lib world request maxRedirects (rounds + 1) hop url = .fail error) ∨
    ∃ exchange : Hop, exchange.Made lib world request hop url ∧
      ((∃ final, sendLoop lib world request maxRedirects (rounds + 1) hop url = ⟨final, [exchange]⟩ ∧
          ((hop : Int) < maxRedirects → Refused lib exchange → final.ok = false) ∧
          (final.ok = true → final = exchange.reply)) ∨
        ∃ nextUrl, follow lib url exchange.endpoint exchange.reply = .ok nextUrl ∧
          (exchange.reply.ok = true ∧ isRedirect exchange.reply.status = true) ∧
          sendLoop lib world request maxRedirects (rounds + 1) hop url =
            ⟨(sendLoop lib world request maxRedirects rounds (hop + 1) nextUrl).response,
              exchange :: (sendLoop lib world request maxRedirects rounds (hop + 1) nextUrl).hops⟩) := by
  rw [sendLoop]
  split
  · exact Or.inl ⟨_, rfl⟩
  · split
    · exact Or.inl ⟨_, rfl⟩
    · next endpoint hparse =>
        refine Or.inr ⟨⟨url, endpoint, world.sendOnce hop endpoint request⟩, ⟨rfl, hparse, rfl⟩, ?_⟩
        dsimp only
        split
        · next hlast =>
            refine Or.inl ⟨_, rfl, ?_, fun _ => rfl⟩
            intro hhop hrefused
            rcases hlast with hfail | hmax | hnot
            · exact hfail
            · omega
            · rw [hrefused.2.1] at hnot
              cases hnot
        · next hredirect =>
            rw [not_or, not_or, Bool.not_eq_false, Bool.not_eq_false] at hredirect
            split
            · next final hfollow =>
                refine Or.inl ⟨final, rfl, ?_, ?_⟩
                · intro _ hrefused
                  exact (follow_error hfollow).resolve_left (fun h => hrefused.2.2.1 h.1)
                · intro hok
                  rcases follow_error hfollow with ⟨-, heq⟩ | hfail
                  · exact heq
                  · rw [hfail] at hok
                    cases hok
            · next nextUrl hfollow =>
                exact Or.inr ⟨nextUrl, hfollow, ⟨hredirect.1, hredirect.2.2⟩, rfl⟩

/-! ## The whole chain -/

theorem sendLoop_length_le (rounds hop : Nat) (url : Str) :
    (sendLoop lib world request maxRedirects rounds hop url).hops.length ≤ rounds := by
  induction rounds generalizing hop url with
  | zero => exact Nat.le_refl 0
  | succ rounds ih =>
      rcases sendLoop_cases rounds hop url with
        ⟨error, heq⟩ | ⟨exchange, -, ⟨final, heq, -⟩ | ⟨next, -, -, heq⟩⟩
      · rw [heq]
        exact Nat.zero_le _
      · rw [heq]
        exact Nat.le_add_left 1 rounds
      · rw [heq]
        exact Nat.succ_le_succ (ih (hop + 1) next)

/-- The first exchange is with the endpoint of the URL. -/
theorem sendLoop_head (rounds hop : Nat) (url : Str) :
    ∀ first ∈ (sendLoop lib world request maxRedirects rounds hop url).hops.head?,
      parseUrl lib url = some first.endpoint := by
  cases rounds with
  | zero => exact nofun
  | succ rounds =>
      rcases sendLoop_cases rounds hop url with
        ⟨error, heq⟩ | ⟨exchange, hmade, ⟨final, heq, -⟩ | ⟨next, -, -, heq⟩⟩
      · rw [heq]
        exact nofun
      · rw [heq]
        intro first hfirst
        cases hfirst
        exact hmade.endpoint_eq
      · rw [heq]
        intro first hfirst
        cases hfirst
        exact hmade.endpoint_eq

/-- The second exchange is no less secure than the first. -/
def Hop.NoDowngrade (a b : Hop) : Prop := a.endpoint.secure = true → b.endpoint.secure = true

instance : Trans Hop.NoDowngrade Hop.NoDowngrade Hop.NoDowngrade := ⟨fun hab hbc ha => hbc (hab ha)⟩

theorem sendLoop_isChain (rounds hop : Nat) (url : Str) :
    (sendLoop lib world request maxRedirects rounds hop url).hops.IsChain Hop.NoDowngrade := by
  induction rounds generalizing hop url with
  | zero => exact .nil
  | succ rounds ih =>
      rcases sendLoop_cases rounds hop url with
        ⟨error, heq⟩ | ⟨exchange, -, ⟨final, heq, -⟩ | ⟨next, hfollow, -, heq⟩⟩
      · rw [heq]
        exact .nil
      · rw [heq]
        exact .singleton _
      · rw [heq]
        obtain ⟨-, -, endpoint, hparse, hsecure⟩ := follow_ok hfollow
        cases hrest : (sendLoop lib world request maxRedirects rounds (hop + 1) next).hops with
        | nil => exact .singleton _
        | cons second rest =>
            have hmem : second ∈
                (sendLoop lib world request maxRedirects rounds (hop + 1) next).hops.head? := by
              rw [hrest]
              rfl
            -- the target was parsed before: it is the endpoint of the next exchange
            have hsecond : parseUrl lib next = some second.endpoint := sendLoop_head _ _ _ second hmem
            rw [hparse] at hsecond
            cases hsecond
            have htail := ih (hop + 1) next
            rw [hrest] at htail
            exact .cons_cons hsecure htail

/-- The hops are the exchanges that were made, one for every number. -/
theorem sendLoop_reply (rounds hop : Nat) (url : Str) (i : Nat) (exchange : Hop)
    (h : (sendLoop lib world request maxRedirects rounds hop url).hops[i]? = some exchange) :
    exchange.reply = world.sendOnce (hop + i) exchange.endpoint request := by
  induction rounds generalizing hop url i with
  | zero => cases h
  | succ rounds ih =>
      rcases sendLoop_cases rounds hop url with
        ⟨error, heq⟩ | ⟨first, hmade, ⟨final, heq, -⟩ | ⟨next, -, -, heq⟩⟩
      · rw [heq] at h
        cases h
      · rw [heq] at h
        cases i with
        | zero =>
            cases h
            exact hmade.reply_eq
        | succ i => cases h
      · rw [heq] at h
        cases i with
        | zero =>
            cases h
            exact hmade.reply_eq
        | succ i =>
            have hi : hop + (i + 1) = hop + 1 + i := by omega
            rw [hi]
            exact ih (hop + 1) next i h

/-- Every reply but the last is a redirect. -/
theorem sendLoop_followed (rounds hop : Nat) (url : Str) (i : Nat) (exchange : Hop)
    (h : (sendLoop lib world request maxRedirects rounds hop url).hops[i]? = some exchange)
    (hi : i + 1 < (sendLoop lib world request maxRedirects rounds hop url).hops.length) :
    isRedirect exchange.reply.status = true := by
  induction rounds generalizing hop url i with
  | zero => cases h
  | succ rounds ih =>
      rcases sendLoop_cases rounds hop url with
        ⟨error, heq⟩ | ⟨first, -, ⟨final, heq, -⟩ | ⟨next, -, hredirect, heq⟩⟩
      · rw [heq] at h
        cases h
      · rw [heq] at hi
        exact absurd hi (Nat.not_lt.mpr (Nat.le_add_left 1 i))
      · rw [heq] at h hi
        cases i with
        | zero =>
            cases h
            exact hredirect.2
        | succ i => exact ih (hop + 1) next i h (Nat.lt_of_succ_lt_succ hi)

/-- A response that is `ok` is the last reply. -/
theorem sendLoop_last (rounds hop : Nat) (url : Str)
    (hok : (sendLoop lib world request maxRedirects rounds hop url).response.ok = true) :
    ∃ last, (sendLoop lib world request maxRedirects rounds hop url).hops.getLast? = some last ∧
      last.reply = (sendLoop lib world request maxRedirects rounds hop url).response := by
  induction rounds generalizing hop url with
  | zero => cases hok
  | succ rounds ih =>
      rcases sendLoop_cases rounds hop url with
        ⟨error, heq⟩ | ⟨exchange, -, ⟨final, heq, -, hfinal⟩ | ⟨next, -, -, heq⟩⟩
      · rw [heq] at hok
        cases hok
      · rw [heq] at hok ⊢
        exact ⟨exchange, rfl, (hfinal hok).symm⟩
      · rw [heq] at hok ⊢
        obtain ⟨last, hlast, hreply⟩ := ih (hop + 1) next hok
        refine ⟨last, ?_, hreply⟩
        rw [List.getLast?_cons, hlast]
        rfl

/-- A refused redirect ends the chain, and the response says so. -/
theorem sendLoop_refused (rounds hop : Nat) (url : Str) (before after : List Hop) (exchange : Hop)
    (hops : (sendLoop lib world request maxRedirects rounds hop url).hops = before ++ exchange :: after)
    (hmax : ((hop + before.length : Nat) : Int) < maxRedirects) (hrefused : Refused lib exchange) :
    after = [] ∧ (sendLoop lib world request maxRedirects rounds hop url).response.ok = false := by
  induction rounds generalizing hop url before with
  | zero =>
      have hlen := congrArg List.length hops
      rw [List.length_append, List.length_cons] at hlen
      cases hlen
  | succ rounds ih =>
      rcases sendLoop_cases rounds hop url with
        ⟨error, heq⟩ | ⟨first, hmade, ⟨final, heq, hfinal, -⟩ | ⟨next, hfollow, -, heq⟩⟩
      · rw [heq] at hops
        cases before <;> cases hops
      · rw [heq] at hops ⊢
        cases before with
        | nil =>
            cases hops
            exact ⟨rfl, hfinal hmax hrefused⟩
        | cons b before =>
            have htail : [] = before ++ exchange :: after := List.tail_eq_of_cons_eq hops
            cases before <;> cases htail
      · rw [heq] at hops ⊢
        cases before with
        | nil =>
            cases hops
            rw [← hmade.url_eq] at hfollow
            exact absurd hfollow (hrefused.follow_ne_ok next)
        | cons b before =>
            refine ih (hop + 1) next before (List.tail_eq_of_cons_eq hops) ?_
            rw [List.length_cons] at hmax
            omega

/-- **Redirects are bounded and never downgrade.** `Send` makes at most `maxRedirects + 1` exchanges, none
less secure than an earlier one, and a redirect that must not be followed is the end: the response is not
`ok`, and there is no other exchange. -/
theorem redirects_bounded_and_secure (lib : UrlLib Url Ref) (world : HttpWorld) (request : HttpRequest)
    (maxRedirects : Int) (url : Str) (hmax : 0 ≤ maxRedirects) :
    ((send lib world request maxRedirects url).hops.length : Int) ≤ maxRedirects + 1 ∧
    (send lib world request maxRedirects url).hops.Pairwise Hop.NoDowngrade ∧
    ∀ before exchange after,
      (send lib world request maxRedirects url).hops = before ++ exchange :: after →
      (before.length : Int) < maxRedirects → Refused lib exchange →
        after = [] ∧ (send lib world request maxRedirects url).response.ok = false := by
  refine ⟨?_, List.isChain_iff_pairwise.mp (sendLoop_isChain _ 0 url), ?_⟩
  · have hlen : (send lib world request maxRedirects url).hops.length ≤ (maxRedirects + 1).toNat :=
      sendLoop_length_le _ 0 url
    omega
  · intro before exchange after hops hhop hrefused
    refine sendLoop_refused _ 0 url before after exchange hops ?_ hrefused
    rw [Nat.zero_add]
    exact hhop

end

end HttpClient

namespace Sample

/-- URLs without ports, and references that are URLs. -/
def urlLib : UrlLib (UrlScheme × Str) Str where
  parseUri := fun url =>
    if (str "https://").isPrefixOf url then some (.https, url.drop 8)
    else if (str "http://").isPrefixOf url then some (.http, url.drop 7)
    else none
  parseUriReference := some
  resolve := fun _ ref => some ref
  schemeId := fun url => url.1
  host := fun url => url.2.takeWhile (· ≠ 47)
  port := fun _ => none
  encodedTarget := fun url => url.2.dropWhile (· ≠ 47)
  encodedHostAndPort := fun url => url.2.takeWhile (· ≠ 47)

def redirectTo (location : String) : HttpResponse :=
  { ok := true, status := 302, headers := [(str "Location", str location)] }

/-- The first server redirects to another one, and that one to HTTP. -/
def redirecting : HttpWorld where
  canceled := fun _ => false
  sendOnce := fun hop _ _ => if hop = 0 then redirectTo "https://b/x" else redirectTo "http://b/"

def firstHop : HttpClient.Hop :=
  ⟨str "https://a", ⟨str "a", str "443", str "/", str "a", true⟩, redirectTo "https://b/x"⟩

def secondHop : HttpClient.Hop :=
  ⟨str "https://b/x", ⟨str "b", str "443", str "/x", str "b", true⟩, redirectTo "http://b/"⟩

end Sample

namespace HttpClient

/-- The downgrade ends the chain after two exchanges. -/
theorem redirects_bounded_and_secure_sample :
    (send Sample.urlLib Sample.redirecting { method := .get } 5 (str "https://a")).hops =
      [Sample.firstHop, Sample.secondHop] ∧
    (send Sample.urlLib Sample.redirecting { method := .get } 5 (str "https://a")).response.ok = false := by
  have hhops : (send Sample.urlLib Sample.redirecting { method := .get } 5 (str "https://a")).hops =
      [Sample.firstHop, Sample.secondHop] := by
    decide +kernel
  have hrefused : Refused Sample.urlLib Sample.secondHop := by
    refine ⟨rfl, by decide, by decide, Or.inr (Or.inr ⟨rfl, ?_⟩)⟩
    exact ⟨⟨str "b", str "80", str "/", str "b", false⟩, by decide +kernel, rfl⟩
  have hmain := redirects_bounded_and_secure Sample.urlLib Sample.redirecting { method := .get } 5
    (str "https://a") (by decide)
  exact ⟨hhops, (hmain.2.2 [Sample.firstHop] Sample.secondHop [] hhops (by decide) hrefused).2⟩

end HttpClient

end PcbuDesktop
