import Asyncua.Crypto.X509

/-!
# What `uadiscover` prints of a server

`uadiscover` prints, for each server, the `name: value` pairs of `application_to_strings`, and
for each endpoint those of `endpoint_to_strings`: its server's pairs, its certificate as
`cert_to_string` renders the first certificate of the chain `x509_from_der` reads, and a block
per user identity token. What the `cryptography` objects render to is given as text.

`_uadiscover` catches only `OSError` and timeouts, so the `ValueError` or `IndexError` of a
certificate escapes the loop over the endpoints: the endpoints before it are printed, then its
header, and none after it.
-/

namespace Asyncua

/-- `bool(v)`, the test of `if v:`; an object of a class without `__bool__` or `__len__` is
true. -/
def PyValue.truthy : PyValue → Bool
  | .none => false
  | .str s => s ≠ ""
  | .int i => i ≠ 0
  | .obj _ => true

/-! ### Certificates -/

/-- What `x509_to_string` reads of a certificate: the attributes of its subject and issuer, as
`(attr.oid._name, attr.value)`, and the text of its validity dates. -/
structure CertText where
  subject : List (String × String)
  issuer : List (String × String)
  notValidBefore : String
  notValidAfter : String
  deriving DecidableEq, Repr

/-- `x509_name_to_string(name)`. -/
def x509NameToString (name : List (String × String)) : String :=
  ", ".intercalate (name.map fun attr => attr.1 ++ "=" ++ attr.2)

/-- `x509_to_string(cert)`. -/
def x509ToString (cert : CertText) : String :=
  let issuer := if cert.subject = cert.issuer then " (self-signed)"
    else ", issuer: " ++ x509NameToString cert.issuer
  x509NameToString cert.subject ++ issuer ++ ", " ++ cert.notValidBefore ++ " - " ++
    cert.notValidAfter

lemma x509FromDer_ne_ok_none {Cert : Type} (load : List UInt8 → Except String Cert)
    {data : List UInt8} (hne : data ≠ []) : x509FromDer load data ≠ .ok none := by
  unfold x509FromDer
  rw [if_neg (by simpa using hne)]
  split
  · nofun
  · split
    · nofun
    · split
      · nofun
      · split <;> nofun

section Cert

variable (load : List UInt8 → Except String CertText)

/-- `cert_to_string(der)`: `x509_from_der` returns a certificate for data that is not empty, or
raises. -/
def certToString (der : List UInt8) : Except X509Error String :=
  if h : der = [] then .ok "[no certificate]"
  else match hx : x509FromDer load der with
    | .ok (some cert) => .ok (x509ToString cert)
    | .ok none => absurd hx (x509FromDer_ne_ok_none load h)
    | .error e => .error e

/-- `cert_to_string` raises exactly what `x509_from_der` raises on data that is not empty. -/
lemma certToString_eq_error {der : List UInt8} {e : X509Error} :
    certToString load der = .error e ↔ der ≠ [] ∧ x509FromDer load der = .error e := by
  unfold certToString
  split_ifs with h
  · simp [h]
  · split
    · simp_all
    · exact absurd ‹_› (x509FromDer_ne_ok_none load h)
    · simp_all

end Cert

/-! ### Applications and endpoints -/

/-- What `application_to_strings` reads of a `ua.ApplicationDescription`: the name and the type
as `to_string()` and `str()` render them. `None` and an empty list of discovery URLs print
alike. -/
structure ApplicationDescription where
  applicationUri : PyValue
  productUri : PyValue
  applicationName : String
  applicationType : String
  gatewayServerUri : PyValue
  discoveryProfileUri : PyValue
  discoveryUrls : List String
  deriving DecidableEq, Repr

/-- `application_to_strings(app)`. -/
def applicationToStrings (app : ApplicationDescription) : List (String × PyValue) :=
  let optionals : List (String × PyValue) :=
    [("Product URI", app.productUri),
      ("Application Name", .str app.applicationName),
      ("Application Type", .str app.applicationType),
      ("Gateway Server URI", app.gatewayServerUri),
      ("Discovery Profile URI", app.discoveryProfileUri)]
  let result := optionals.foldl (fun result nv => if nv.2.truthy then result ++ [nv] else result)
    [("Application URI", app.applicationUri)]
  app.discoveryUrls.foldl (fun result url => result ++ [("Discovery URL", .str url)]) result

/-- What `endpoint_to_strings` reads of a `ua.UserTokenPolicy`. -/
structure UserTokenPolicy where
  policyId : PyValue
  tokenType : String
  issuedTokenType : PyValue
  issuerEndpointUrl : PyValue
  securityPolicyUri : PyValue
  deriving DecidableEq, Repr

/-- The pairs one pass of the loop over the user identity tokens adds. -/
def tokenStrings (tok : UserTokenPolicy) : List (String × PyValue) :=
  let result := [("User policy", tok.policyId), ("  Token type", .str tok.tokenType)]
  let result := if tok.issuedTokenType.truthy || tok.issuerEndpointUrl.truthy then
      result ++ [("  Issued Token type", tok.issuedTokenType),
        ("  Issuer Endpoint URL", tok.issuerEndpointUrl)]
    else result
  if tok.securityPolicyUri.truthy then
    result ++ [("  Security Policy URI", tok.securityPolicyUri)]
  else result

/-- What `endpoint_to_strings` reads of a `ua.EndpointDescription`; `None` and an empty byte
string as a certificate print alike. -/
structure EndpointDescription where
  endpointUrl : PyValue
  server : ApplicationDescription
  serverCertificate : List UInt8
  securityMode : String
  securityPolicyUri : PyValue
  userIdentityTokens : List UserTokenPolicy
  transportProfileUri : PyValue
  securityLevel : PyValue
  deriving DecidableEq, Repr

/-- `endpoint_to_strings(ep)`, or the exception `cert_to_string` raises. -/
def endpointToStrings (load : List UInt8 → Except String CertText) (ep : EndpointDescription) :
    Except X509Error (List (String × PyValue)) := do
  let cert ← certToString load ep.serverCertificate
  let result := [("Endpoint URL", ep.endpointUrl)] ++ applicationToStrings ep.server ++
    [("Server Certificate", .str cert), ("Security Mode", .str ep.securityMode),
      ("Security Policy URI", ep.securityPolicyUri)]
  let result := ep.userIdentityTokens.foldl (fun result tok => result ++ tokenStrings tok) result
  pure (result ++ [("Transport Profile URI", ep.transportProfileUri),
    ("Security Level", ep.securityLevel)])

/-- `endpoint_to_strings` raises exactly when `cert_to_string` does. -/
lemma endpointToStrings_eq_error {load : List UInt8 → Except String CertText}
    {ep : EndpointDescription} {e : X509Error} :
    endpointToStrings load ep = .error e ↔ certToString load ep.serverCertificate = .error e := by
  unfold endpointToStrings
  cases certToString load ep.serverCertificate <;> simp [bind, Except.bind, pure, Except.pure]

/-! ### The user identity tokens of an endpoint -/

lemma foldl_append_eq_append_flatMap {α β : Type} (f : α → List β) (xs : List α)
    (acc : List β) :
    xs.foldl (fun result x => result ++ f x) acc = acc ++ xs.flatMap f := by
  induction xs generalizing acc with
  | nil => simp
  | cons x xs ih => simp [ih, List.append_assoc]

lemma foldl_append_if_eq_append_filter {α : Type} (p : α → Bool) (xs acc : List α) :
    xs.foldl (fun result x => if p x then result ++ [x] else result) acc = acc ++ xs.filter p := by
  induction xs generalizing acc with
  | nil => simp
  | cons x xs ih => by_cases hx : p x <;> simp [ih, hx, List.filter_cons]

/-- `application_to_strings` as a whole: the application URI, the optional fields that are set,
and every discovery URL. -/
lemma applicationToStrings_eq (app : ApplicationDescription) :
    applicationToStrings app =
      ("Application URI", app.applicationUri) ::
        ([("Product URI", app.productUri),
          ("Application Name", .str app.applicationName),
          ("Application Type", .str app.applicationType),
          ("Gateway Server URI", app.gatewayServerUri),
          ("Discovery Profile URI", app.discoveryProfileUri)].filter (·.2.truthy) ++
        app.discoveryUrls.map (("Discovery URL", .str ·))) := by
  rw [applicationToStrings,
    foldl_append_if_eq_append_filter (fun nv : String × PyValue => nv.2.truthy),
    foldl_append_eq_append_flatMap (fun url => [("Discovery URL", PyValue.str url)]),
    List.map_eq_flatMap]
  rfl

lemma filter_userPolicy_tokenStrings (tok : UserTokenPolicy) :
    (tokenStrings tok).filter (·.1 = "User policy") = [("User policy", tok.policyId)] := by
  unfold tokenStrings
  split_ifs <;> simp

lemma filter_userPolicy_applicationToStrings (app : ApplicationDescription) :
    (applicationToStrings app).filter (·.1 = "User policy") = [] := by
  simp [applicationToStrings_eq, List.filter_filter, List.filter_map, Function.comp_def]

/-- `uadiscover` names every user identity token of an endpoint, in order, each by the one
`User policy` line that starts its block: no other line of the endpoint carries that name. -/
theorem endpointToStrings_userPolicies {load : List UInt8 → Except String CertText}
    {ep : EndpointDescription} {lines : List (String × PyValue)}
    (h : endpointToStrings load ep = .ok lines) :
    lines.filter (·.1 = "User policy") =
      ep.userIdentityTokens.map (("User policy", ·.policyId)) := by
  unfold endpointToStrings at h
  cases hc : certToString load ep.serverCertificate with
  | error e => rw [hc] at h; cases h
  | ok cert =>
    rw [hc] at h
    cases h
    rw [foldl_append_eq_append_flatMap]
    simp [List.filter_append, filter_userPolicy_applicationToStrings, List.filter_flatMap,
      filter_userPolicy_tokenStrings, List.map_eq_flatMap]

/-- An endpoint without certificate and with one anonymous token. -/
theorem endpointToStrings_userPolicies_anonymous :
    endpointToStrings (fun _ => .error "unused")
        ⟨.none, ⟨.none, .none, "", "", .none, .none, []⟩, [], "", .none,
          [⟨.str "anonymous", "Anonymous", .none, .none, .none⟩], .none, .int 0⟩ =
      .ok [("Endpoint URL", .none), ("Application URI", .none),
        ("Server Certificate", .str "[no certificate]"), ("Security Mode", .str ""),
        ("Security Policy URI", .none), ("User policy", .str "anonymous"),
        ("  Token type", .str "Anonymous"), ("Transport Profile URI", .none),
        ("Security Level", .int 0)] ∧
    List.filter (·.1 = "User policy")
        [("Endpoint URL", .none), ("Application URI", .none),
          ("Server Certificate", .str "[no certificate]"), ("Security Mode", .str ""),
          ("Security Policy URI", .none), ("User policy", .str "anonymous"),
          ("  Token type", .str "Anonymous"), ("Transport Profile URI", .none),
          ("Security Level", .int 0)] =
      List.map (("User policy", ·.policyId))
        [(⟨.str "anonymous", "Anonymous", .none, .none, .none⟩ : UserTokenPolicy)] :=
  ⟨rfl, @endpointToStrings_userPolicies (fun _ => .error "unused")
    ⟨.none, ⟨.none, .none, "", "", .none, .none, []⟩, [], "", .none,
      [⟨.str "anonymous", "Anonymous", .none, .none, .none⟩], .none, .int 0⟩ _ rfl⟩

/-! ### What `uadiscover` prints -/

/-- The block `_uadiscover` prints for the `i`-th item of a kind (`Server`, `Endpoint`): its
header, one `  name: value` line per pair, and an empty line. -/
def discoverBlock (kind : String) (i : Nat) (pairs : List (String × PyValue)) : List String :=
  (kind ++ " " ++ toString i ++ ":") ::
    (pairs.map fun nv => "  " ++ nv.1 ++ ": " ++ nv.2.render) ++ [""]

/-- `print(f"Performing discovery at {args.url}\n")`. -/
def discoveryHeader (url : String) : String := "Performing discovery at " ++ url ++ "\n"

section Uadiscover

variable (load : List UInt8 → Except String CertText)

/-- The loop over the endpoints from the `i`-th: the lines printed, and the exception of
`endpoint_to_strings` that escapes once the header of its endpoint is printed. -/
def endpointLines : Nat → List EndpointDescription → List String × Option X509Error
  | _, [] => ([], none)
  | i, ep :: eps =>
    match endpointToStrings load ep with
    | .error e => (["Endpoint " ++ toString i ++ ":"], some e)
    | .ok pairs =>
      let r := endpointLines (i + 1) eps
      (discoverBlock "Endpoint" i pairs ++ r.1, r.2)

/-- `_uadiscover` once the client has answered: `network` holds the servers found on the network
when `--network` is given, whose blocks hold no pair (that loop is commented out in the source),
then come the servers and the endpoints. The exception of a certificate is not caught. -/
def uadiscover (url : String) (network : Option (List ApplicationDescription))
    (servers : List ApplicationDescription) (endpoints : List EndpointDescription) :
    List String × Option X509Error :=
  let networkLines := match network with
    | none => []
    | some found => discoveryHeader url ::
        (found.enumFrom 1).flatMap fun p => ["Server " ++ toString p.1 ++ ":", ""]
  let serverLines := discoveryHeader url ::
    (servers.enumFrom 1).flatMap fun p => discoverBlock "Server" p.1 (applicationToStrings p.2)
  let r := endpointLines load 1 endpoints
  (networkLines ++ serverLines ++ r.1, r.2)

/-- The blocks of endpoints whose pairs are `pairss`, numbered from `i`. -/
def endpointBlocks (i : Nat) (pairss : List (List (String × PyValue))) : List String :=
  (pairss.enumFrom i).flatMap fun p => discoverBlock "Endpoint" p.1 p.2

lemma endpointLines_of_forall₂ {eps : List EndpointDescription}
    {pairss : List (List (String × PyValue))}
    (h : List.Forall₂ (fun ep pairs => endpointToStrings load ep = .ok pairs) eps pairss)
    (i : Nat) : endpointLines load i eps = (endpointBlocks i pairss, none) := by
  induction h generalizing i with
  | nil => rfl
  | cons hep _ ih => simp [endpointLines, endpointBlocks, hep, ih, List.enumFrom_cons]

lemma endpointLines_append_error {pre : List EndpointDescription}
    {pairss : List (List (String × PyValue))}
    (hpre : List.Forall₂ (fun ep pairs => endpointToStrings load ep = .ok pairs) pre pairss)
    {ep : EndpointDescription} {e : X509Error} (hep : endpointToStrings load ep = .error e)
    (post : List EndpointDescription) (i : Nat) :
    endpointLines load i (pre ++ ep :: post) =
      (endpointBlocks i pairss ++ ["Endpoint " ++ toString (i + pre.length) ++ ":"], some e) := by
  induction hpre generalizing i with
  | nil => simp [endpointLines, endpointBlocks, hep]
  | @cons _ _ pre _ hp _ ih =>
    simp only [List.cons_append, endpointLines, hp, List.append_eq, ih, endpointBlocks,
      List.enumFrom_cons, List.flatMap_cons, List.append_assoc, List.length_cons]
    rw [show i + 1 + pre.length = i + (pre.length + 1) by omega]

/-- When every certificate is read, `uadiscover` prints, after the servers, one block per
endpoint, numbered from 1 in the order of the client's answer, and raises nothing. -/
theorem uadiscover_of_forall₂ (url : String) (network : Option (List ApplicationDescription))
    (servers : List ApplicationDescription) {eps : List EndpointDescription}
    {pairss : List (List (String × PyValue))}
    (h : List.Forall₂ (fun ep pairs => endpointToStrings load ep = .ok pairs) eps pairss) :
    uadiscover load url network servers eps =
      ((uadiscover load url network servers []).1 ++ endpointBlocks 1 pairss, none) := by
  simp only [uadiscover, endpointLines_of_forall₂ load h, endpointLines, List.append_nil]

/-- One endpoint without certificate and without user identity tokens. -/
theorem uadiscover_of_forall₂_plain :
    endpointToStrings (fun _ => .error "unused")
        ⟨.none, ⟨.none, .none, "", "", .none, .none, []⟩, [], "", .none, [], .none, .int 0⟩ =
      .ok [("Endpoint URL", .none), ("Application URI", .none),
        ("Server Certificate", .str "[no certificate]"), ("Security Mode", .str ""),
        ("Security Policy URI", .none), ("Transport Profile URI", .none),
        ("Security Level", .int 0)] ∧
    uadiscover (fun _ => .error "unused") "opc.tcp://h:4840" none []
        [⟨.none, ⟨.none, .none, "", "", .none, .none, []⟩, [], "", .none, [], .none, .int 0⟩] =
      (["Performing discovery at opc.tcp://h:4840\n", "Endpoint 1:", "  Endpoint URL: None",
        "  Application URI: None", "  Server Certificate: [no certificate]", "  Security Mode: ",
        "  Security Policy URI: None", "  Transport Profile URI: None", "  Security Level: 0", ""],
        none) :=
  (fun h => ⟨h, uadiscover_of_forall₂ _ _ none [] (.cons h .nil)⟩) rfl

/-- The first endpoint whose certificate `cert_to_string` cannot read ends the output: the
endpoints before it are printed, then its header, and the exception escapes, so no endpoint
after it is shown. -/
theorem uadiscover_endpoint_error (url : String) (network : Option (List ApplicationDescription))
    (servers : List ApplicationDescription) {pre : List EndpointDescription}
    {pairss : List (List (String × PyValue))}
    (hpre : List.Forall₂ (fun ep pairs => endpointToStrings load ep = .ok pairs) pre pairss)
    {ep : EndpointDescription} {e : X509Error} (hep : endpointToStrings load ep = .error e)
    (post : List EndpointDescription) :
    uadiscover load url network servers (pre ++ ep :: post) =
      ((uadiscover load url network servers []).1 ++ endpointBlocks 1 pairss ++
        ["Endpoint " ++ toString (pre.length + 1) ++ ":"], some e) := by
  simp only [uadiscover, endpointLines_append_error load hpre hep, endpointLines,
    List.append_nil, List.append_assoc, Nat.add_comm 1]

/-- A first endpoint whose certificate does not start with the tag `0x30` hides the second one. -/
theorem uadiscover_endpoint_error_tag :
    uadiscover (fun _ => .error "ExtraData") "opc.tcp://h:4840" none []
        [⟨.none, ⟨.none, .none, "", "", .none, .none, []⟩, [0x31], "", .none, [], .none, .int 0⟩,
          ⟨.none, ⟨.none, .none, "", "", .none, .none, []⟩, [], "", .none, [], .none, .int 0⟩] =
      (["Performing discovery at opc.tcp://h:4840\n", "Endpoint 1:"],
        some (.valueError "No valid certificates found in the certificate chain")) := by
  have hx : isExtraData "ExtraData" = true := by rw [isExtraData_eq]; decide
  exact uadiscover_endpoint_error _ _ none [] .nil
    (endpointToStrings_eq_error.mpr ((certToString_eq_error _).mpr
      ⟨by decide, by simp [x509FromDer, hx, chainCertificate]⟩))
    [⟨.none, ⟨.none, .none, "", "", .none, .none, []⟩, [], "", .none, [], .none, .int 0⟩]

end Uadiscover

end Asyncua
