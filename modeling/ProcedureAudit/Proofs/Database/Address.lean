import Mathlib.Data.List.TakeWhile
import ProcedureAudit.Config.Schema
import ProcedureAudit.Proofs.Database.Percent
import ProcedureAudit.Proofs.Text.Basic
import ProcedureAudit.Proofs.Text.Digits

/-!
# Reading back an address

An address is cut at separators: at the end of the scheme, at the first slash, at the last at sign
before it, and at the first colon on either side of that.  Encoded credentials hold none of them,
and neither do a host and a port, so each cut falls where the address was put together.  Only the
credentials are decoded; the database is what follows the slash, as it is.
-/

namespace ProcedureAudit.Address

/-! ## The text of an address -/

/-- Whether a character may occur in a host that is written as a name or as a number. -/
def inHost (character : Char) : Bool :=
  Text.isSmall character || Text.isAsciiDigit character || character = '.' || character = '-'

/-- Whether a character may occur in the name of a database that is written as it is. -/
def inDatabase (character : Char) : Bool :=
  !(character = '?' || character = '#' || character = '\t' || character = '\r' ||
    character = '\n')

/-- Host, port and database can be written in an address as they are. -/
structure Writable (host : Text) (port : Nat) (database : Text) : Prop where
  hostGiven : host ≠ []
  hostPlain : ∀ character ∈ host, inHost character = true
  portLeast : 1 ≤ port
  portMost : port ≤ 65535
  databaseGiven : database ≠ []
  databasePlain : ∀ character ∈ database, inDatabase character = true
  databaseRelative : database.head? ≠ some '/'

/-- The part of an address between the slashes, with the credentials as they are written. -/
def authorityText (user password host port : Text) : Text :=
  user ++ ':' :: (password ++ '@' :: (host ++ ':' :: port))

/-- An address with the credentials as they are written. -/
def addressText (user password host : Text) (port : Nat) (database : Text) : Text :=
  Config.addressScheme ++ (authorityText user password host (Text.ofNat port) ++ '/' :: database)

/-! ## Numbers of ports -/

theorem portNumber_ofNat {port : Nat} (least : 1 ≤ port) (most : port ≤ 65535) :
    portNumber (Text.ofNat port) = .ok (some port) := by
  have short : (Text.ofNat port).length ≤ 5 :=
    (Nat.length_toDigits_le_iff (by decide) (by decide)).2 (by omega)
  have given : (Text.ofNat port).isEmpty = false :=
    List.isEmpty_eq_false_iff.2 Nat.toDigits_ne_nil
  have digits : (Text.ofNat port).all Text.isAsciiDigit = true :=
    List.all_eq_true.2 Text.isAsciiDigit_of_mem_ofNat
  have limit : ¬ Numeral.digitLimit < (Text.ofNat port).length := by
    unfold Numeral.digitLimit
    omega
  simp only [portNumber, given, digits, Text.natOfDigits_ofNat, if_neg limit]
  rw [if_neg (by decide), if_neg (by decide), if_neg (by omega), if_neg (by omega)]

/-! ## The separators -/

theorem ne_of_test
    {test : Char → Bool}
    {character mark : Char}
    (passes : test character = true)
    (fails : test mark = false) :
    character ≠ mark := by
  rintro rfl
  rw [passes] at fails
  contradiction

/-- A separator does not occur in a text whose characters pass a test that it fails. -/
theorem not_mem_of_test
    {test : Char → Bool}
    {text : Text}
    {mark : Char}
    (passes : ∀ character ∈ text, test character = true)
    (fails : test mark = false) :
    mark ∉ text :=
  fun member => ne_of_test (passes mark member) fails rfl

/-- Whether a character may occur between the slashes of an address. -/
def inAuthority (character : Char) : Bool :=
  isEncoding character || character = ':' || character = '@'

theorem toNat_le_of_isAsciiDigit {character : Char} (digit : Text.isAsciiDigit character = true) :
    character.toNat ≤ 57 := by
  simp only [Text.isAsciiDigit, Bool.and_eq_true, decide_eq_true_eq] at digit
  exact digit.2

theorem isEncoding_of_inHost {character : Char} (inside : inHost character = true) :
    isEncoding character = true := by
  simp only [inHost, Bool.or_eq_true, decide_eq_true_eq] at inside
  rcases inside with ((small | digit) | rfl) | rfl
  · simp [isEncoding, isUnreserved, Text.isLetter, small]
  · simp [isEncoding, isUnreserved, digit]
  · rfl
  · rfl

theorem isCapital_eq_false_of_inHost {character : Char} (inside : inHost character = true) :
    Text.isCapital character = false := by
  rw [Bool.eq_false_iff]
  intro capital
  have code := Text.isCapital_iff.1 capital
  simp only [inHost, Bool.or_eq_true, decide_eq_true_eq, Text.isSmall_iff] at inside
  rcases inside with ((small | digit) | rfl) | rfl
  · omega
  · have most := toNat_le_of_isAsciiDigit digit
    omega
  · contradiction
  · contradiction

theorem isEncoding_of_mem_ofNat {number : Nat} :
    ∀ character ∈ Text.ofNat number, isEncoding character = true := by
  intro character member
  simp [isEncoding, isUnreserved, Text.isAsciiDigit_of_mem_ofNat character member]

theorem toNat_lt_of_inAuthority {character : Char} (inside : inAuthority character = true) :
    character.toNat < 128 := by
  simp only [inAuthority, isEncoding, isUnreserved, Text.isLetter, Bool.or_eq_true,
    decide_eq_true_eq, Text.isCapital_iff, Text.isSmall_iff] at inside
  rcases inside with ((((((((capital | small) | digit) | rfl) | rfl) | rfl) | rfl) | rfl) | rfl) |
    rfl
  · omega
  · omega
  · have most := toNat_le_of_isAsciiDigit digit
    omega
  all_goals decide

theorem inAuthority_of_mem_authorityText
    {user password host port : Text}
    (userEncoding : ∀ character ∈ user, isEncoding character = true)
    (passwordEncoding : ∀ character ∈ password, isEncoding character = true)
    (hostEncoding : ∀ character ∈ host, isEncoding character = true)
    (portEncoding : ∀ character ∈ port, isEncoding character = true) :
    ∀ character ∈ authorityText user password host port, inAuthority character = true := by
  have within {text : Text} (encoding : ∀ character ∈ text, isEncoding character = true) :
      ∀ character ∈ text, inAuthority character = true := by
    intro character member
    simp [inAuthority, encoding character member]
  refine List.forall_mem_append.2 ⟨within userEncoding, List.forall_mem_cons.2 ⟨rfl, ?_⟩⟩
  refine List.forall_mem_append.2 ⟨within passwordEncoding, List.forall_mem_cons.2 ⟨rfl, ?_⟩⟩
  exact List.forall_mem_append.2 ⟨within hostEncoding,
    List.forall_mem_cons.2 ⟨rfl, within portEncoding⟩⟩

/-! ## The cuts -/

section Cuts

variable
    {authority : Text}
    (inside : ∀ character ∈ authority, inAuthority character = true)

include inside

theorem clean_addressScheme_append
    {database : Text}
    (plain : ∀ character ∈ database, inDatabase character = true) :
    clean (Config.addressScheme ++ (authority ++ '/' :: database)) =
      Config.addressScheme ++ (authority ++ '/' :: database) := by
  have begins (rest : Text) :
      (Config.addressScheme ++ rest).dropWhile (·.toNat ≤ 0x20) = Config.addressScheme ++ rest :=
    rfl
  have kept {test : Char → Bool} {character : Char} (passes : test character = true)
      (tab : test '\t' = false) (carriage : test '\r' = false) (feed : test '\n' = false) :
      (!(character = '\t' || character = '\r' || character = '\n')) = true := by
    simp [ne_of_test passes tab, ne_of_test passes carriage, ne_of_test passes feed]
  rw [clean, begins, List.filter_eq_self]
  refine List.forall_mem_append.2 ⟨List.all_eq_true.1 rfl, List.forall_mem_append.2 ⟨?_, ?_⟩⟩
  · exact fun character member => kept (inside character member) rfl rfl rfl
  · exact List.forall_mem_cons.2 ⟨rfl, fun character member =>
      kept (plain character member) rfl rfl rfl⟩

theorem splitAuthority_append (database : Text) :
    splitAuthority ('/' :: '/' :: (authority ++ '/' :: database)) =
      (authority, '/' :: database) := by
  have continues : ∀ character ∈ authority, (!endsAuthority character) = true := by
    intro character member
    have slash : character ≠ '/' := ne_of_test (inside character member) rfl
    have query : character ≠ '?' := ne_of_test (inside character member) rfl
    have fragment : character ≠ '#' := ne_of_test (inside character member) rfl
    simp [endsAuthority, slash, query, fragment]
  rw [splitAuthority, Text.takeWhile_append_of_head? continues (by simp [endsAuthority]),
    Text.dropWhile_append_of_head? continues (by simp [endsAuthority])]

theorem checkBrackets_eq_ok : checkBrackets authority = .ok () := by
  have opening : '[' ∉ authority := not_mem_of_test inside rfl
  have closing : ']' ∉ authority := not_mem_of_test inside rfl
  simp [checkBrackets, opening, closing]

theorem checkDisguises_eq_ok : checkDisguises authority = .ok () := by
  have beyond : ∀ code ∈ disguises, 128 ≤ code := by decide
  have honest : authority.any (fun character => character.toNat ∈ disguises) = false := by
    rw [List.any_eq_false]
    intro character member disguised
    have below := toNat_lt_of_inAuthority (inside character member)
    have above := beyond _ (of_decide_eq_true disguised)
    omega
  rw [checkDisguises, honest]
  rfl

theorem split_addressText
    {database : Text}
    (plain : ∀ character ∈ database, inDatabase character = true) :
    split (Config.addressScheme ++ (authority ++ '/' :: database)) =
      .ok { scheme := "mysql".toList, authority, path := '/' :: database } := by
  have scheme (rest : Text) :
      splitScheme (Config.addressScheme ++ rest) = ("mysql".toList, '/' :: '/' :: rest) :=
    rfl
  have path : pathOf ('/' :: database) = '/' :: database := by
    rw [pathOf, List.takeWhile_eq_self_iff]
    refine List.forall_mem_cons.2 ⟨rfl, fun character member => ?_⟩
    have query : character ≠ '?' := ne_of_test (plain character member) rfl
    have fragment : character ≠ '#' := ne_of_test (plain character member) rfl
    simp [query, fragment]
  simp only [split, clean_addressScheme_append inside plain, scheme,
    splitAuthority_append inside, checkBrackets_eq_ok inside, checkDisguises_eq_ok inside, path]

end Cuts

theorem splitColon_append_cons {before : Text} (absent : ':' ∉ before) (after : Text) :
    splitColon (before ++ ':' :: after) = (before, after) := by
  have continues : ∀ character ∈ before, decide (character ≠ ':') = true := by
    intro character member
    exact decide_eq_true fun same => absent (same ▸ member)
  rw [splitColon, Text.takeWhile_append_of_head? continues (by simp),
    Text.dropWhile_append_of_head? continues (by simp)]
  rfl

section Place

variable
    {host port : Text}
    (hostEncoding : ∀ character ∈ host, isEncoding character = true)
    (portEncoding : ∀ character ∈ port, isEncoding character = true)

include hostEncoding portEncoding

/-- The only separator between host and port is the colon. -/
theorem not_mem_place
    {mark : Char}
    (separates : isEncoding mark = false)
    (other : mark ≠ ':') :
    mark ∉ host ++ ':' :: port := by
  rw [List.mem_append, List.mem_cons, not_or, not_or]
  exact ⟨not_mem_of_test hostEncoding separates, other, not_mem_of_test portEncoding separates⟩

theorem splitPlace_append_cons : splitPlace (host ++ ':' :: port) = (host, port) := by
  have bracketless : (host ++ ':' :: port).dropWhile (· ≠ '[') = [] := by
    rw [List.dropWhile_eq_nil_iff]
    intro character member
    refine decide_eq_true ?_
    rintro rfl
    exact not_mem_place hostEncoding portEncoding rfl (by decide) member
  rw [splitPlace, bracketless]
  exact splitColon_append_cons (not_mem_of_test hostEncoding rfl) port

theorem splitUser_authorityText (user password : Text) :
    splitUser (authorityText user password host port) =
      (some (user ++ ':' :: password), host ++ ':' :: port) := by
  have joined : authorityText user password host port =
      (user ++ ':' :: password) ++ '@' :: (host ++ ':' :: port) := by
    rw [authorityText, List.append_assoc, List.cons_append]
  have placeless : '@' ∉ host ++ ':' :: port :=
    not_mem_place hostEncoding portEncoding rfl (by decide)
  rw [joined, splitUser, Text.splitAtLast?_append_cons placeless]

end Place

/-- A host in small letters is its own name. -/
theorem hostName_eq_self {host : Text} (plain : ∀ character ∈ host, inHost character = true) :
    hostName host = host := by
  have zoneless : ∀ character ∈ host, decide (character ≠ '%') = true := by
    intro character member
    exact decide_eq_true (ne_of_test (plain character member) rfl)
  have small : Text.lower host = host := by
    refine Text.lower_eq_self fun character member => ?_
    have encoding := isEncoding_of_inHost (plain character member)
    exact ⟨toNat_lt_of_inAuthority (by simp [inAuthority, encoding]),
      isCapital_eq_false_of_inHost (plain character member)⟩
  have name : host.takeWhile (· ≠ '%') = host := List.takeWhile_eq_self_iff.2 zoneless
  have zone : host.dropWhile (· ≠ '%') = [] := List.dropWhile_eq_nil_iff.2 zoneless
  rw [hostName, name, zone, List.append_nil, small]

/-! ## The address -/

theorem orDefault_of_ne_nil {text : Text} (given : text ≠ []) (fallback : Text) :
    orDefault fallback text = text := by
  cases text with
  | nil => exact (given rfl).elim
  | cons first text => rfl

section Parsing

variable
    {user userText password passwordText host : Text}
    {port : Nat}
    {database : Text}

theorem parse_addressText
    (userGiven : user ≠ [])
    (userEncodes : Encodes userText user)
    (passwordEncodes : Encodes passwordText password)
    (writable : Writable host port database) :
    parse (addressText userText passwordText host port database) =
      .ok { host, port, user, password, database := some database } := by
  have userEncoding := isEncoding_of_mem_encodes userEncodes
  have passwordEncoding := isEncoding_of_mem_encodes passwordEncodes
  have hostEncoding : ∀ character ∈ host, isEncoding character = true := fun character member =>
    isEncoding_of_inHost (writable.hostPlain character member)
  have portEncoding : ∀ character ∈ Text.ofNat port, isEncoding character = true :=
    isEncoding_of_mem_ofNat
  have parts := split_addressText
    (inAuthority_of_mem_authorityText userEncoding passwordEncoding hostEncoding portEncoding)
    writable.databasePlain
  have relative : ('/' :: database).dropWhile (· = '/') = database := by
    have stops : ∀ character ∈ database.head?, decide (character = '/') = false := by
      intro character first
      refine decide_eq_false ?_
      rintro rfl
      exact writable.databaseRelative first
    exact Text.dropWhile_append_of_head? (List.forall_mem_singleton.2 rfl) stops
  have named : database.isEmpty = false := List.isEmpty_eq_false_iff.2 writable.databaseGiven
  simp only [parse, addressText, parts, splitUser_authorityText hostEncoding portEncoding,
    Option.getD_some, splitColon_append_cons (not_mem_of_test userEncoding rfl),
    splitPlace_append_cons hostEncoding portEncoding,
    portNumber_ofNat writable.portLeast writable.portMost, relative, named]
  rw [hostName_eq_self writable.hostPlain, orDefault_of_ne_nil writable.hostGiven,
    orDefault_of_ne_nil (ne_nil_of_encodes userEncodes userGiven),
    percentDecode_of_encodes userEncodes, percentDecode_of_encodes passwordEncodes]
  rfl

/-- The address passes the check wherever it stands in a configuration. -/
theorem checkAddress_addressText (place : List Text) :
    Config.checkAddress place (addressText userText passwordText host port database) =
      .ok (addressText userText passwordText host port database) := by
  have begins : Text.beginsWith Config.addressScheme
      (addressText userText passwordText host port database) = true :=
    Text.beginsWith_iff.2 (List.prefix_append _ _)
  rw [Config.checkAddress, begins]
  rfl

theorem checkDatabase_addressText
    {entries : List (Yaml.Datum × Yaml.Datum)}
    (field : Config.field? "dsn" entries =
      some (.atom (.string
        (CodeText.ofText (addressText userText passwordText host port database)))))
    (place : List Text) :
    Config.checkDatabase place entries =
      .ok (addressText userText passwordText host port database) := by
  rw [Config.checkDatabase, Config.checkField, field]
  simp only [Config.checkTextWith, Config.checkText, Config.checkCodeText, Except.map,
    CodeText.joined_ofText, checkAddress_addressText]

/--
Whatever the user and the password are, and however they were encoded, they are read back from an
address, together with host, port and database as they stand there; and a configuration that
names the address is valid.
-/
theorem addressText_roundTrips
    (userGiven : user ≠ [])
    (userEncodes : Encodes userText user)
    (passwordEncodes : Encodes passwordText password)
    (writable : Writable host port database) :
    parse (addressText userText passwordText host port database) =
        .ok { host, port, user, password, database := some database } ∧
      (∀ place,
        Config.checkAddress place (addressText userText passwordText host port database) =
          .ok (addressText userText passwordText host port database)) ∧
      ∀ place entries,
        Config.field? "dsn" entries =
            some (.atom (.string
              (CodeText.ofText (addressText userText passwordText host port database)))) →
          Config.checkDatabase place entries =
            .ok (addressText userText passwordText host port database) :=
  ⟨parse_addressText userGiven userEncodes passwordEncodes writable, checkAddress_addressText,
    fun place _ field => checkDatabase_addressText field place⟩

end Parsing

/-- Credentials with all the separators, a percent sign and characters of several octets. -/
theorem addressText_roundTrips_separators :
    let user := "a@b:c/é".toList
    let password := "%40 ?#[😀]".toList
    let address : Text :=
      ("mysql://a%40b%3Ac%2F%C3%A9:%2540%20%3F%23%5B%F0%9F%98%80%5D" ++
        "@db-1.local:3307/fxa@x:%41/é").toList
    addressText (percentEncode user) (percentEncode password) "db-1.local".toList 3307
        "fxa@x:%41/é".toList = address ∧
      parse address =
        .ok
          { host := "db-1.local".toList
            port := 3307
            user
            password
            database := some "fxa@x:%41/é".toList } ∧
      Config.checkDatabase [] [(.atom (.string (CodeText.ofText "dsn".toList)),
          .atom (.string (CodeText.ofText address)))] = .ok address := by
  intro user password address
  have written : addressText (percentEncode user) (percentEncode password) "db-1.local".toList
      3307 "fxa@x:%41/é".toList = address := by
    decide +kernel
  have writable : Writable "db-1.local".toList 3307 "fxa@x:%41/é".toList :=
    { hostGiven := by decide
      hostPlain := List.all_eq_true.1 rfl
      portLeast := by decide
      portMost := by decide
      databaseGiven := by decide
      databasePlain := List.all_eq_true.1 rfl
      databaseRelative := by decide }
  obtain ⟨parsed, -, valid⟩ := addressText_roundTrips (List.cons_ne_nil _ _ : user ≠ [])
    (encodes_percentEncode user) (encodes_percentEncode password) writable
  rw [written] at parsed valid
  exact ⟨written, parsed, valid [] _ rfl⟩

end ProcedureAudit.Address
