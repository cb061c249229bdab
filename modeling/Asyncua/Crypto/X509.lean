import Mathlib.Data.Nat.Digits
import Asyncua.Python

/-!
# Loading the first certificate of a DER chain

`x509_from_der` first hands the whole byte string to `load_der_x509_certificate`. When that fails
because bytes follow the first certificate, it reads the DER header of the first certificate (the
`SEQUENCE` tag `0x30` and a definite length, see https://en.wikipedia.org/wiki/X.690#DER_encoding)
and hands over only that certificate's bytes. The certificate parser itself is a parameter.

The header decoding inverts the DER encoding of lengths: for every length, in short or long form,
`x509_from_der` hands the parser exactly the first certificate's bytes and reads no index outside
the data. `check_certificate` returns `True` when it finds something wrong with a certificate.
-/

namespace Asyncua

/-- `int.from_bytes(bs, "big")`. -/
def fromBytesBig (bs : List UInt8) : Nat := bs.foldl (fun acc b => acc * 256 + b.toNat) 0

/-- Why `x509_from_der` raises. -/
inductive X509Error
  /-- `data[i]` with `i` out of range. -/
  | indexError
  /-- A `ValueError` with its message. -/
  | valueError (msg : String)
  deriving DecidableEq, Repr

/-- The certificate-chain branch of `x509_from_der`: the bytes it passes to
`load_der_x509_certificate`. `offset` stays `0`, and the body of the `while` loop ends its first
pass either with `break`, which leads to the `raise`, or with `return`. -/
def chainCertificate (data : List UInt8) : Except X509Error (List UInt8) :=
  match data with
  | [] => .error (.valueError "No valid certificates found in the certificate chain")
  | tag :: rest =>
    if tag ≠ 0x30 then .error (.valueError "No valid certificates found in the certificate chain")
    else
      match rest with
      | [] => .error .indexError
      | lengthByte :: _ =>
        let (certLen, headerLen) :=
          if lengthByte.toNat < 128 then (lengthByte.toNat, 2)
          else
            let numLenBytes := (lengthByte &&& 0x7F).toNat
            (fromBytesBig ((data.drop 2).take numLenBytes), 2 + numLenBytes)
        .ok (data.take (headerLen + certLen))

/-- `"extradata" in message.lower()`. -/
def isExtraData (message : String) : Bool :=
  (message.toLower.data.tails.any fun t => "extradata".data.isPrefixOf t)

/-- `isExtraData` on the characters of the message, where `decide` evaluates it. -/
lemma isExtraData_eq (message : String) : isExtraData message =
    (message.data.map Char.toLower).tails.any fun t => "extradata".data.isPrefixOf t := by
  rw [isExtraData, String.toLower, String.map_eq]

/-- `x509_from_der(data)`, for a certificate parser `load` that returns a certificate or raises a
`ValueError` with a message. -/
def x509FromDer {Cert : Type} (load : List UInt8 → Except String Cert) (data : List UInt8) :
    Except X509Error (Option Cert) :=
  if data.isEmpty then .ok none
  else
    match load data with
    | .ok cert => .ok (some cert)
    | .error msg =>
      if !isExtraData msg then .error (.valueError msg)
      else
        match chainCertificate data with
        | .error e => .error e
        | .ok certData =>
          match load certData with
          | .ok cert => .ok (some cert)
          | .error msg => .error (.valueError msg)

/-! ### DER lengths -/

/-- The big-endian bytes of `n`, without leading zeros. -/
def toBytesBig (n : Nat) : List UInt8 := ((Nat.digits 256 n).reverse).map UInt8.ofNat

/-- The DER encoding of a length `L`: the byte `L` when `L < 128`, otherwise `0x80 | n` followed
by `L` in its `n` big-endian bytes, which needs `n < 128`. -/
def derLength (L : Nat) : Option (List UInt8) :=
  if L < 128 then some [UInt8.ofNat L]
  else if (toBytesBig L).length < 128 then
    some ((0x80 ||| UInt8.ofNat (toBytesBig L).length) :: toBytesBig L)
  else none

lemma foldr_bytes_ofDigits (l : List Nat) (hl : ∀ d ∈ l, d < 256) :
    l.foldr (fun d acc => acc * 256 + (UInt8.ofNat d).toNat) 0 = Nat.ofDigits 256 l := by
  induction l with
  | nil => rfl
  | cons d ds ih =>
    rw [List.foldr_cons, ih fun d' h' => hl d' (List.mem_cons_of_mem d h'), Nat.ofDigits_cons,
      UInt8.toNat_ofNat_of_lt (hl d (List.mem_cons_self d ds))]
    ring

lemma fromBytesBig_toBytesBig (n : Nat) : fromBytesBig (toBytesBig n) = n := by
  rw [fromBytesBig, toBytesBig, List.foldl_map, List.foldl_reverse,
    foldr_bytes_ofDigits _ fun d hd => Nat.digits_lt_base (by norm_num) hd, Nat.ofDigits_digits]

lemma lengthByte_long (n : Nat) (hn : n < 128) :
    128 ≤ (0x80 ||| UInt8.ofNat n).toNat ∧ ((0x80 ||| UInt8.ofNat n) &&& 0x7F).toNat = n := by
  have key : ∀ m : Fin 128, 128 ≤ (0x80 ||| UInt8.ofNat m.val).toNat ∧
      ((0x80 ||| UInt8.ofNat m.val) &&& 0x7F).toNat = m.val := by decide
  exact key ⟨n, hn⟩

/-- For every length `L`, in short or long form, and whatever follows the first certificate, the
certificate-chain branch reads only indices inside the data and passes on exactly the first
certificate: the tag, the DER length and the `L` content bytes. -/
theorem chainCertificate_der (L : Nat) (enc c r : List UInt8) (henc : derLength L = some enc)
    (hc : c.length = L) :
    chainCertificate (0x30 :: enc ++ c ++ r) = .ok (0x30 :: enc ++ c) := by
  subst hc
  unfold derLength at henc
  split_ifs at henc with hL hn <;> cases henc
  · -- short form: the length byte is `L` itself
    have hb : (UInt8.ofNat c.length).toNat = c.length :=
      UInt8.toNat_ofNat_of_lt (show c.length < 256 by omega)
    simp [chainCertificate, hb, hL]
    rw [show 2 + c.length = c.length + 1 + 1 by omega]
    simp
  · -- long form: `0x80 | n`, then `L` in `n` big-endian bytes
    obtain ⟨hge, hand⟩ := lengthByte_long _ hn
    simp [chainCertificate, Nat.not_lt.mpr hge, hand, fromBytesBig_toBytesBig]
    rw [show 2 + (toBytesBig c.length).length + c.length =
      (toBytesBig c.length).length + c.length + 1 + 1 by omega]
    simp [List.take_append_eq_append_take]

/-- When the parser rejects the whole data for extra bytes after the first certificate,
`x509_from_der` returns what the parser makes of the bytes the chain branch passes on alone. -/
lemma x509FromDer_chain {Cert : Type} (load : List UInt8 → Except String Cert)
    {data certData : List UInt8} (hne : data ≠ []) {msg : String} (hload : load data = .error msg)
    (hextra : isExtraData msg = true) (hchain : chainCertificate data = .ok certData) :
    x509FromDer load data =
      match load certData with
      | .ok cert => .ok (some cert)
      | .error m => .error (.valueError m) := by
  simp only [x509FromDer, hload, hchain, hextra, List.isEmpty_iff, hne]
  rfl

/-- For every length `L`, in short or long form, every content `c` of `L` bytes and whatever
follows it, when the parser rejects the whole data for its extra bytes, `x509_from_der` hands the
parser exactly the first certificate `0x30 · enc(L) · c`, having read no index outside the data:
its result is what the parser makes of those bytes. -/
theorem x509FromDer_der {Cert : Type} (load : List UInt8 → Except String Cert) (L : Nat)
    (enc c r : List UInt8) (henc : derLength L = some enc) (hc : c.length = L) {msg : String}
    (hload : load (0x30 :: enc ++ c ++ r) = .error msg) (hextra : isExtraData msg = true) :
    x509FromDer load (0x30 :: enc ++ c ++ r) =
      match load (0x30 :: enc ++ c) with
      | .ok cert => .ok (some cert)
      | .error m => .error (.valueError m) :=
  x509FromDer_chain load (List.cons_ne_nil _ _) hload hextra
    (chainCertificate_der L enc c r henc hc)

set_option maxRecDepth 2000 in
/-- A parser that accepts only data of one certificate's length, on a chain whose first
certificate has a short-form length (3) and on one whose first certificate has a long-form length
(200, written `0x81 200`). -/
theorem x509FromDer_der_short_long :
    x509FromDer
        (fun d => if d.length = 5 ∨ d.length = 203 then .ok d.length else .error "ExtraData")
        (0x30 :: [3] ++ [1, 2, 3] ++ [0x30, 0]) = .ok (some 5) ∧
    x509FromDer
        (fun d => if d.length = 5 ∨ d.length = 203 then .ok d.length else .error "ExtraData")
        (0x30 :: [0x81, 200] ++ List.replicate 200 7 ++ [0]) = .ok (some 203) := by
  have hx : isExtraData "ExtraData" = true := by rw [isExtraData_eq]; decide
  have hlong : derLength 200 = some [0x81, 200] := by simp [derLength, toBytesBig]; rfl
  exact ⟨x509FromDer_der _ 3 [3] [1, 2, 3] [0x30, 0] (by decide) rfl rfl hx,
    x509FromDer_der _ 200 [0x81, 200] (List.replicate 200 7) [0] hlong (List.length_replicate _ _)
      rfl hx⟩

/-! ### Checking a certificate -/

/-- What `check_certificate` reads of a certificate: its validity period, and the URIs and DNS
names of its `SubjectAlternativeName` extension, `none` when it has none. -/
structure CertInfo where
  notValidBefore : Int
  notValidAfter : Int
  san : Option (List String × List String)
  deriving DecidableEq, Repr

/-- `check_certificate(cert, application_uri, hostname)` at the time `now`: `true` when an error
was logged. -/
def checkCertificate (cert : CertInfo) (applicationUri : String) (hostname : Option String)
    (now : Int) : Bool :=
  let err := cert.notValidAfter < now
  let err := if cert.notValidBefore > now then true else err
  match cert.san with
  | none => true
  | some (sanUri, sanDnsNames) =>
    let err := if applicationUri ∉ sanUri then true else err
    match hostname with
    | none => err
    | some hostname => if hostname ∉ sanDnsNames then true else err

end Asyncua
