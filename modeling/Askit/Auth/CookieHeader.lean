import Askit.Auth.Services
import Askit.Codec.Rejoined
import Askit.Interleaving.Sequential
import Mathlib.Logic.Equiv.List

/-! The `Cookie` header that the middleware puts in the place of that of the request. -/

namespace Askit.Auth

open Interleaving Coro
open Game (Runtime Time)
open Codec.Cookies Codec

abbrev accessTokenCookie : Text := "access_token".toList

abbrev refreshTokenCookie : Text := "refresh_token".toList

/-- `request.cookies` -/
def requestCookies (header : List UInt8) : List (Text × Text) := cookieParser (latin1 header)

/-- A token among the cookies; an empty one counts as missing. -/
def tokenCookie (cookies : List (Text × Text)) (name : Text) : Option String :=
  (cookies.lookup name).bind fun value => if value = [] then none else some (String.ofList value)

def replaced (header : List UInt8) (newAccessToken : String) : List (Text × Text) :=
  store (requestCookies header) (accessTokenCookie, newAccessToken.toList)

def rebuiltHeader (header : List UInt8) (newAccessToken : String) : List UInt8 :=
  encode (join (replaced header newAccessToken))

/-- `AutoRefreshMiddleware.dispatch` up to the call of the endpoint: the header of the request as
the endpoint finds it, and the new token. -/
def refreshedHeader [Crypto String] (header : List UInt8) :
    Handler String (List UInt8 × Option String) := do
  let cookies := requestCookies header
  let (_, newAccessToken) ←
    autoRefresh ⟨tokenCookie cookies accessTokenCookie, tokenCookie cookies refreshTokenCookie⟩
  match newAccessToken with
  | some token => pure (rebuiltHeader header token, some token)
  | none => pure (header, none)

/-- The characters of a compact JWT. -/
def JwtText (token : String) : Prop :=
  ∀ c ∈ token.toList, c.isAlphanum = true ∨ c = '-' ∨ c = '_' ∨ c = '.'

/-- The endpoint finds the cookies of the request, with the new token in the place of the old
one. -/
def CookiesKept (header rebuilt : List UInt8) (token : String) : Prop :=
  ∀ name, (requestCookies rebuilt).lookup name =
    if name = accessTokenCookie then some token.toList else (requestCookies header).lookup name

namespace CookieHeader

section Parser

lemma latin_latin1 (header : List UInt8) : Latin (latin1 header) := by
  intro c hc
  obtain ⟨b, -, rfl⟩ := List.mem_map.mp hc
  rw [toNat_ofNat b.toNat_lt]
  exact b.toNat_lt

lemma latin_unquote {s : Text} (h : Latin s) : Latin (unquote s) := by
  unfold unquote
  split
  · exact latin_unescape fun c hc => h c (List.mem_of_mem_tail (List.mem_of_mem_dropLast hc))
  · exact h

lemma split_fst (chunk : Text) : (split chunk).1 ⊆ chunk ∧ equals ∉ (split chunk).1 := by
  unfold split
  split
  · exact ⟨(List.takeWhile_prefix _).subset, fun h => by simpa using List.mem_takeWhile_imp h⟩
  · exact ⟨List.nil_subset _, List.not_mem_nil⟩

lemma parsed_cookieParser {s : Text} (hs : Latin s) : Parsed (cookieParser s) := by
  have hentry : ∀ p ∈ cookieParser s, ∃ chunk, chunk ⊆ s ∧ semicolon ∉ chunk ∧
      p = (strip (split chunk).1, unquote (strip (split chunk).2)) := by
    intro p hp
    have hmem := (Dicts.mem_of_mem_foldl hp).resolve_right List.not_mem_nil
    obtain ⟨chunk, hchunk, hentry⟩ := List.mem_filterMap.mp hmem
    obtain ⟨hwithin, hfree⟩ := mem_splitOn hchunk
    simp only [entry] at hentry
    split_ifs at hentry
    exact ⟨chunk, hwithin.subset, hfree, (Option.some.inj hentry).symm⟩
  constructor
  · exact Dicts.nodup_foldl (d := []) List.nodup_nil _
  · intro p hp c hc
    obtain ⟨chunk, hsub, -, rfl⟩ := hentry p hp
    exact hs c (hsub ((split_fst chunk).1 ((strip_within _).subset hc)))
  · intro p hp
    obtain ⟨chunk, hsub, -, rfl⟩ := hentry p hp
    exact latin_unquote fun c hc =>
      hs c (hsub ((split_within chunk).subset ((strip_within _).subset hc)))
  · intro p hp
    obtain ⟨chunk, -, -, rfl⟩ := hentry p hp
    exact strip_idem _
  · intro p hp hc
    obtain ⟨chunk, -, hfree, rfl⟩ := hentry p hp
    exact hfree ((split_fst chunk).1 ((strip_within _).subset hc))
  · intro p hp hc
    obtain ⟨chunk, -, -, rfl⟩ := hentry p hp
    exact (split_fst chunk).2 ((strip_within _).subset hc)

end Parser

section Token

variable {token : String}

lemma toNat_of_jwtText (h : JwtText token) : ∀ c ∈ token.toList, 45 ≤ c.toNat ∧ c.toNat < 128 ∧
    c.toNat ≠ 59 := by
  intro c hc
  rcases h c hc with hc | rfl | rfl | rfl
  · have hval : c.toNat = c.val.toNat := rfl
    delta Char.isAlphanum Char.isAlpha Char.isUpper Char.isLower Char.isDigit at hc
    simp only [Bool.or_eq_true,
      Bool.and_eq_true, decide_eq_true_eq, UInt32.le_iff_toNat_le, ge_iff_le, Char.reduceVal,
      UInt32.reduceToNat] at hc
    omega
  · decide
  · decide
  · decide

lemma accessTokenCookie_key : breadth accessTokenCookie = 0 ∧ Latin accessTokenCookie ∧
    strip accessTokenCookie = accessTokenCookie ∧ semicolon ∉ accessTokenCookie ∧
    equals ∉ accessTokenCookie :=
  ⟨by decide, latin_of_all (by decide), by decide, by decide, by decide⟩

lemma strip_eq_self {s : Text} (h : ∀ c ∈ s, isSpace c = false) : strip s = s := by
  have hdrop : s.dropWhile isSpace = s := by
    cases s with
    | nil => rfl
    | cons c s => exact List.dropWhile_cons_of_neg (by simp [h c List.mem_cons_self])
  rw [strip, hdrop, List.rdropWhile_eq_self_iff]
  intro hne
  simp [h _ (List.getLast_mem hne)]

lemma plain_token {name : Text} (hname : breadth name = 0) (hne : name ≠ []) (h : JwtText token) :
    Plain (name, token.toList) := by
  have hchars := toNat_of_jwtText h
  constructor
  · exact hname
  · rw [breadth, List.countP_eq_zero]
    intro c hc
    have hle := (hchars c hc).2.1
    simp [wide, hle]
  · exact fun hc => (hchars _ hc).2.2 rfl
  · apply strip_eq_self
    intro c hc
    obtain ⟨hmin, hmax, -⟩ := hchars c hc
    simp only [isSpace]
    simp
    omega
  · rintro ⟨-, hhead, -⟩
    have hquote := (hchars _ (List.mem_of_mem_head? hhead)).1
    exact absurd hquote (by decide)
  · exact fun hempty => hne hempty.1

lemma latin_token (h : JwtText token) : Latin token.toList := fun c hc => by
  have := (toNat_of_jwtText h c hc).2.1
  omega

end Token

section Rebuilt

variable {header : List UInt8} {token : String}

lemma mem_replaced {p : Text × Text} : p ∈ replaced header token ↔
    p = (accessTokenCookie, token.toList) ∨ (p ∈ requestCookies header ∧ p.1 ≠ accessTokenCookie) :=
  Dicts.mem_store

lemma parsed_replaced (h : JwtText token) : Parsed (replaced header token) := by
  have hc := parsed_cookieParser (latin_latin1 header)
  have hcases : ∀ {P : Text × Text → Prop}, P (accessTokenCookie, token.toList) →
      (∀ p ∈ requestCookies header, P p) → ∀ p ∈ replaced header token, P p := by
    intro P htoken hold p hp
    rcases mem_replaced.mp hp with rfl | ⟨hp, -⟩
    · exact htoken
    · exact hold p hp
  constructor
  · exact Dicts.nodup_store hc.nodup
  · exact hcases (P := fun p => Latin p.1) accessTokenCookie_key.2.1 hc.latin_key
  · exact hcases (P := fun p => Latin p.2) (latin_token h) hc.latin_value
  · exact hcases (P := fun p => strip p.1 = p.1) accessTokenCookie_key.2.2.1 hc.stripped
  · exact hcases (P := fun p => semicolon ∉ p.1) accessTokenCookie_key.2.2.2.1 hc.semicolon
  · exact hcases (P := fun p => equals ∉ p.1) accessTokenCookie_key.2.2.2.2 hc.equals

lemma cookiesKept_iff (h : JwtText token) : CookiesKept header (rebuiltHeader header token) token ↔
    ∀ p ∈ requestCookies header, p.1 ≠ accessTokenCookie → Plain p := by
  have hlookup : ∀ name, (replaced header token).lookup name =
      if name = accessTokenCookie then some token.toList
        else (requestCookies header).lookup name := fun name =>
    Dicts.lookup_store (parsed_cookieParser (latin_latin1 header)).nodup
  have hkept : CookiesKept header (rebuiltHeader header token) token ↔
      ∀ name, (requestCookies (rebuiltHeader header token)).lookup name =
        (replaced header token).lookup name := by
    simp only [CookiesKept, hlookup]
  rw [hkept]
  refine (rejoined_iff (parsed_replaced h)).trans ⟨fun hplain p hp hne => ?_, fun hplain p hp => ?_⟩
  · exact hplain p (mem_replaced.mpr (.inr ⟨hp, hne⟩))
  · rcases mem_replaced.mp hp with rfl | ⟨hp, hne⟩
    · exact plain_token accessTokenCookie_key.1 (by decide) h
    · exact hplain p hp hne

end Rebuilt

section Minted

variable [Crypto String]

def Signs : ∀ {β : Type}, Op String β → β → Prop
  | _, .encode _ claims secret, token => token = Crypto.encode claims secret
  | _, _, _ => True

def Encoded (token : String) : Prop := ∃ claims secret, token = Crypto.encode claims secret

lemma signs_of_exec [Runtime] {β : Type} (o : Op String β) (s : State String) (a : β)
    (h : (exec o s).1 = .ok a) :
    Signs o a := by
  cases o with
  | encode issuer claims secret => exact (Except.ok.inj h).symm
  | _ => trivial

lemma createToken_returns (issuer : Issuer) (subject tokenType secret : String) (expiresIn : ℕ)
    (version : ℤ) :
    (createToken issuer subject tokenType secret expiresIn version : Handler String String).Returns
      Signs
      Encoded :=
  Returns.perform_bind fun _ _ => Returns.perform_bind fun _ _ =>
    ⟨fun _ h => ⟨_, _, h⟩, fun _ => trivial⟩

lemma renewAccessToken_returns (cookies : Cookies String) (refreshToken : String) :
    (renewAccessToken cookies refreshToken).Returns Signs fun c => ∀ token, c.2 = some token →
    Encoded token := by
  apply Returns.perform_bind
  intro blacklisted _
  cases blacklisted with
  | true => exact fun _ h => by cases h
  | false =>
    apply Returns.bind
    intro payload
    apply Returns.bind_of_returns (createToken_returns ..)
    rintro token htoken _ ⟨⟩
    exact htoken

lemma autoRefresh_returns (cookies : Cookies String) :
    (autoRefresh cookies).Returns Signs fun c => ∀ token, c.2 = some token → Encoded token := by
  have hnone : (pure (cookies, none) : Handler String (Cookies String × Option String)).Returns
    Signs
      fun c => ∀ token, c.2 = some token → Encoded token := fun _ h => by cases h
  unfold autoRefresh
  split
  · apply Returns.tryCatch
    · exact Returns.bind fun _ => hnone
    · intro e
      split
      · split
        · exact Returns.tryCatch (renewAccessToken_returns cookies _) fun _ => hnone
        · exact hnone
      · exact hnone
      · trivial
  · exact hnone

lemma of_refreshedHeader [Runtime] {header rebuilt : List UInt8} {token : String}
    {s t : State String}
    (h : (refreshedHeader header).alone exec s = (.ok (rebuilt, some token), t)) :
    rebuilt = rebuiltHeader header token ∧ Encoded token := by
  have hreturns : (refreshedHeader header).Returns Signs fun r => ∀ token, r.2 = some token →
      r.1 = rebuiltHeader header token ∧ Encoded token := by
    apply Returns.bind_of_returns (autoRefresh_returns _)
    rintro ⟨cookies, minted⟩ hminted
    cases minted with
    | none => exact fun _ h => by cases h
    | some token =>
      rintro _ ⟨⟩
      exact ⟨rfl, hminted token rfl⟩
  exact Returns.alone signs_of_exec hreturns (congrArg Prod.fst h) token rfl

lemma autoRefresh_mints [Runtime] {accessToken refreshToken : String} {payload : JWTPayload}
    {s : State String}
    (haccess : verified accessToken (Crypto.accessSecret String) "access" s.now = .error
      .tokenExpiredError)
    (hrefresh : verified refreshToken (Crypto.refreshSecret String) "refresh" s.now = .ok payload)
    (hfree : s.redis.blacklisted s.now refreshToken = false) : ∃ cookies token t,
      (autoRefresh ⟨some accessToken, some refreshToken⟩).alone exec s =
        (.ok (cookies, some token), t) := by
  have hverify : (verifyAccessToken accessToken).alone exec s = (.error .tokenExpiredError, s) :=
    congrArg (fun r => (r, s)) haccess
  have hread : (verifyRefreshToken refreshToken).alone exec s = (.ok payload, s) :=
    congrArg (fun r => (r, s)) hrefresh
  have hasked : exec (.existsBlacklist refreshToken) s = (.ok false, s) := by rw [exec, hfree]
  have hrenew : ∃ cookies token t,
    (renewAccessToken ⟨some accessToken, some refreshToken⟩ refreshToken).alone
      exec s = (.ok (cookies, some token), t) := by
    rw [renewAccessToken, alone_perform_bind hasked]
    simp only [Bool.false_eq_true, if_false]
    rw [alone_bind_ok hread]
    exact ⟨_, _, _, rfl⟩
  obtain ⟨cookies, token, t, hrenew⟩ := hrenew
  refine ⟨cookies, token, t, ?_⟩
  rw [autoRefresh, alone_tryCatch, alone_bind_error hverify]
  dsimp only
  rw [alone_tryCatch, hrenew]

end Minted

end CookieHeader

/-- Where the middleware mints a token, the endpoint finds the cookies of the request, with the new
token for the old one, exactly if every other cookie is plain. -/
theorem refreshedHeader_keeps [Crypto String] [Runtime]
    (hjwt : ∀ claims secret, JwtText (Crypto.encode claims secret)) {header rebuilt : List UInt8}
    {token : String} {s t : State String}
    (h : (refreshedHeader header).alone exec s = (.ok (rebuilt, some token), t)) :
    CookiesKept header rebuilt token ↔
      ∀ p ∈ requestCookies header, p.1 ≠ accessTokenCookie → Plain p := by
  obtain ⟨rfl, claims, secret, rfl⟩ := CookieHeader.of_refreshedHeader h
  exact CookieHeader.cookiesKept_iff (hjwt claims secret)

/-! A request whose access token has expired. -/

namespace CookieHeader

section Sample

def codes (s : String) : List ℕ := s.toList.map Char.toNat

def ofCodes (l : List ℕ) : String := String.ofList (l.map Char.ofNat)

lemma ofCodes_codes (s : String) : ofCodes (codes s) = s := by
  simp [ofCodes, codes, Function.comp_def]

abbrev Fields := Option (List ℕ) × Option (List ℕ) × Option ℤ × Option (List ℕ) × Option ℤ ×
    Option ℤ × List ℕ

def fields (x : Claims × String) : Fields :=
  (x.1.sub.map codes, x.1.type.map codes, x.1.ver, x.1.jti.map codes, x.1.iat, x.1.exp, codes x.2)

def ofFields : Fields → Claims × String
  | (sub, type, ver, jti, iat, exp, secret) =>
    (⟨sub.map ofCodes, type.map ofCodes, ver, jti.map ofCodes, iat, exp⟩, ofCodes secret)

lemma ofFields_fields (x : Claims × String) : ofFields (fields x) = x := by
  have hmap : ∀ o : Option String, (o.map codes).map ofCodes = o := fun o => by
    cases o <;> simp [ofCodes_codes]
  simp [ofFields, fields, hmap, ofCodes_codes]

@[irreducible] def pack (x : Claims × String) :
    String := String.ofList (Nat.toDigits 10 (Encodable.encode (fields x)))

def unpack (token : String) : Option (Claims × String) :=
  (Encodable.decode (α := Fields) (Nat.ofDigitChars 10 token.toList 0)).map ofFields

lemma unpack_pack (x : Claims × String) : unpack (pack x) = some x := by
  rw [unpack, pack, String.toList_ofList, Nat.ofDigitChars_ten_toDigits, Encodable.encodek,
    Option.map_some, ofFields_fields]

@[reducible] def Crypto.digits : Crypto String where
  accessSecret := "access"
  refreshSecret := "refresh"
  encode claims secret := pack (claims, secret)
  decode token secret now :=
    match unpack token with
    | some x => Crypto.transparent.decode x secret now
    | none => .error .invalidToken
  peek token := ((unpack token).map Prod.fst).getD ⟨none, none, none, none, none, none⟩
  peek_encode claims secret := by rw [unpack_pack]; rfl
  peek_decode {token secret now raw} h := by
    cases hx : unpack token with
    | none =>
      rw [hx] at h
      cases h
    | some x =>
      rw [hx] at h
      exact Crypto.transparent.peek_decode h
  lt_exp {token secret now raw exp} h he := by
    cases hx : unpack token with
    | none =>
      rw [hx] at h
      cases h
    | some x =>
      rw [hx] at h
      exact Crypto.transparent.lt_exp h he
  hashPassword _ password := password
  verifyPassword password hash := password = hash

lemma jwtText_pack (x : Claims × String) : JwtText (pack x) := by
  intro c hc
  rw [pack, String.toList_ofList] at hc
  have hdigit := Nat.isDigit_of_mem_toDigits (by norm_num) (by norm_num) hc
  exact .inl (by simp [Char.isAlphanum, hdigit])

attribute [local instance] Runtime.ascii Crypto.digits

def expired : Claims × String :=
    (⟨some "ada", some "access", some 1, some "x", some 0, some 3600⟩, "access")

def lasting : Claims × String :=
    (⟨some "ada", some "refresh", some 1, some "y", some 0, some 604800⟩, "refresh")

def later : State String :=
  ⟨Sample.users, Tables.Table.empty, ⟨fun _ => none, fun _ => none⟩, seconds 5000, 0⟩

def tokens : List (Text × Text) :=
  [(accessTokenCookie, (pack expired).toList), (refreshTokenCookie, (pack lasting).toList)]

lemma parsed_tokens : Parsed tokens := by
  have hcases : ∀ {P : Text × Text → Prop}, P (accessTokenCookie, (pack expired).toList) →
      P (refreshTokenCookie, (pack lasting).toList) → ∀ p ∈ tokens, P p := by
    intro P hexpired hlasting p hp
    rcases List.mem_pair.mp hp with rfl | rfl
    · exact hexpired
    · exact hlasting
  constructor
  · change [accessTokenCookie, refreshTokenCookie].Nodup
    decide
  · exact hcases (P := fun p => Latin p.1) (latin_of_all (by decide)) (latin_of_all (by decide))
  · exact hcases (P := fun p => Latin p.2) (latin_token (jwtText_pack _))
      (latin_token (jwtText_pack _))
  · exact hcases (P := fun p => strip p.1 = p.1) (by decide) (by decide)
  · exact hcases (P := fun p => semicolon ∉ p.1) (by decide) (by decide)
  · exact hcases (P := fun p => equals ∉ p.1) (by decide) (by decide)

lemma plain_tokens : ∀ p ∈ tokens, Plain p := by
  intro p hp
  rcases List.mem_pair.mp hp with rfl | rfl
  · exact plain_token (by decide) (by decide) (jwtText_pack _)
  · exact plain_token (by decide) (by decide) (jwtText_pack _)

/-- The header of a request with the two tokens and something after them. -/
def header (rest : List UInt8) : List UInt8 := encode (join tokens) ++ rest

lemma entries_header (rest : List UInt8) :
    entries (latin1 (header (59 :: rest))) = tokens ++ entries (latin1 rest) := by
  have hsplit : latin1 (header (59 :: rest)) = reread (join tokens) ++ semicolon ::
      latin1 rest := by
    simp [header, latin1, reread, semicolon]
  rw [hsplit, entries_append, entries_of_plain parsed_tokens plain_tokens]

lemma decode_pack (x : Claims × String) (secret : String) (now : Time) :
    Crypto.decode (pack x) secret now = Crypto.transparent.decode x secret now := by
  change (match unpack (pack x) with
    | some x => Crypto.transparent.decode x secret now
    | none => .error .invalidToken) = _
  rw [unpack_pack]

lemma mints {rest : List UInt8} {others : List (Text × Text)}
    (h : requestCookies (header rest) = tokens ++ others) :
    ∃ rebuilt token t, (refreshedHeader (header rest)).alone exec later =
      (.ok (rebuilt, some token), t) := by
  have hne : ∀ x, (pack x).toList ≠ [] := fun x => by
    rw [pack, String.toList_ofList]
    exact Nat.toDigits_ne_nil
  have haccess : tokenCookie (tokens ++ others) accessTokenCookie = some (pack expired) := by
    have hlookup : (tokens ++ others).lookup accessTokenCookie = some (pack expired).toList := by
      rw [tokens, List.cons_append, List.lookup_cons_self]
    rw [tokenCookie, hlookup, Option.bind_some, if_neg (hne _), String.ofList_toList]
  have hrefresh : tokenCookie (tokens ++ others) refreshTokenCookie = some (pack lasting) := by
    have hlookup : (tokens ++ others).lookup refreshTokenCookie = some (pack lasting).toList := by
      rw [tokens, List.cons_append, List.lookup_cons, beq_eq_false_iff_ne.mpr (by decide),
        List.cons_append, List.lookup_cons_self]
    rw [tokenCookie, hlookup, Option.bind_some, if_neg (hne _), String.ofList_toList]
  have hexpired : verified (pack expired) "access" "access" (seconds 5000) =
      .error .tokenExpiredError := by
    have hdecode : Crypto.transparent.decode expired "access" (seconds 5000) =
        .error .expiredSignature := rfl
    rw [verified, decode_pack, hdecode]
  have hlasting : verified (pack lasting) "refresh" "refresh" (seconds 5000) =
      .ok ⟨"ada", "refresh", 1, "y", 0, 604800⟩ := by
    have hdecode : Crypto.transparent.decode lasting "refresh" (seconds 5000) = .ok lasting.1 := rfl
    rw [verified, decode_pack, hdecode]
    rfl
  obtain ⟨cookies, token, t, hrun⟩ := autoRefresh_mints (s := later) hexpired hlasting rfl
  rw [refreshedHeader, h, haccess, hrefresh, alone_bind_ok hrun]
  exact ⟨_, _, _, rfl⟩

/-- `; name=é` in UTF-8. -/
def named : List UInt8 := [59, 32, 110, 97, 109, 101, 61, 195, 169]

def name : Text × Text := ("name".toList, [Char.ofNat 195, Char.ofNat 169])

lemma requestCookies_named : requestCookies (header named) = tokens ++ [name] := by
  have hname : entries (latin1 [32, 110, 97, 109, 101, 61, 195, 169]) = [name] := by decide
  rw [requestCookies, cookieParser, named, entries_header, hname]
  apply Dicts.foldl_store (d := [])
  change [accessTokenCookie, refreshTokenCookie, name.1].Nodup
  decide

/-- The name, written in UTF-8 once more, is not the same any more. -/
theorem name_not_kept : ¬∀ rebuilt token t,
    (refreshedHeader (header named)).alone exec later = (.ok (rebuilt, some token), t) →
      CookiesKept (header named) rebuilt token := by
  intro h
  obtain ⟨rebuilt, token, t, hrun⟩ := mints requestCookies_named
  have hkept := h rebuilt token t hrun
  obtain ⟨rfl, claims, secret, rfl⟩ := of_refreshedHeader hrun
  have hplain := (cookiesKept_iff (jwtText_pack (claims, secret))).mp hkept name
    (by rw [requestCookies_named]; simp) (by decide)
  exact absurd hplain.ascii_value (by decide)

lemma requestCookies_tokens : requestCookies (header []) = tokens ++ [] := by
  rw [requestCookies, header, List.append_nil, List.append_nil]
  exact same_of_plain parsed_tokens plain_tokens

theorem refreshedHeader_keeps_tokens : ∃ rebuilt token t,
    (refreshedHeader (header [])).alone exec later = (.ok (rebuilt, some token), t) ∧
      CookiesKept (header []) rebuilt token := by
  obtain ⟨rebuilt, token, t, hrun⟩ := mints requestCookies_tokens
  refine ⟨rebuilt, token, t, hrun, ?_⟩
  rw [refreshedHeader_keeps (fun claims secret => jwtText_pack (claims, secret)) hrun,
    requestCookies_tokens, List.append_nil]
  exact fun p hp _ => plain_tokens p hp

end Sample

end CookieHeader

end Askit.Auth
