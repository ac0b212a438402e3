import MountKeeper.Failure
import MountKeeper.Text.Utf16

/-! # The wire format of the mount launcher

A message is a sequence of little-endian 16-bit words: one word that says what it is, followed by
strings in 16-bit units, each ended by a zero word.

* `Launcher.wordsOf` and `Launcher.bytesOf` go between bytes and words.
* `Launcher.strings` cuts words at the zero words.
* `Launcher.Request` are the requests, with `encode` and `decode`; `Launcher.payload` and
  `Launcher.pairs` read responses, and `Launcher.response` writes one. -/

namespace MountKeeper.Launcher

/-! ## Words and strings -/

/-- The words of bytes; a byte left over at the end is ignored. -/
def wordsOf : List UInt8 → List UInt16
  | low :: high :: rest => (UInt16.ofNat (low.toNat + 256 * high.toNat)) :: wordsOf rest
  | _ => []

/-- The two bytes of a word, the lower one first. -/
def bytesOfWord (w : UInt16) : List UInt8 :=
  [UInt8.ofNat (w.toNat % 256), UInt8.ofNat (w.toNat / 256)]

/-- The bytes of words. -/
def bytesOf (ws : List UInt16) : List UInt8 :=
  ws.flatMap bytesOfWord

/-- Reading written words gives them back. -/
@[simp] theorem wordsOf_bytesOf (ws : List UInt16) : wordsOf (bytesOf ws) = ws := by
  induction ws with
  | nil => rfl
  | cons w ws ih =>
    have hw : UInt16.ofNat ((UInt8.ofNat (w.toNat % 256)).toNat
        + 256 * (UInt8.ofNat (w.toNat / 256)).toNat) = w := by
      have hlt : w.toNat < 65536 := w.toNat_lt
      have hhigh : w.toNat / 256 < 256 := by omega
      apply UInt16.toNat_inj.1
      simp only [UInt8.toNat_ofNat', UInt16.toNat_ofNat']
      omega
    calc wordsOf (bytesOf (w :: ws))
        = UInt16.ofNat ((UInt8.ofNat (w.toNat % 256)).toNat
            + 256 * (UInt8.ofNat (w.toNat / 256)).toNat) :: wordsOf (bytesOf ws) := rfl
      _ = w :: ws := by rw [hw, ih]

/-- The words of a string with the zero word that ends it. -/
def terminated (s : String) : List UInt16 :=
  Utf16.encode s.toList ++ [0]

/-- The pieces between zero words. The end of the words ends the last piece, if it has words. -/
def pieces (ws : List UInt16) : List (List UInt16) :=
  let cut := ws.splitOn 0
  if ws.isEmpty || ws.getLast? == some 0 then cut.dropLast else cut

/-- The strings between zero words. -/
def strings (ws : List UInt16) : List String :=
  (pieces ws).map fun p => String.ofList (Utf16.decode p)

/-- The strings between zero words, without empty ones. -/
def filledStrings (ws : List UInt16) : List String :=
  ((pieces ws).filter fun p => !p.isEmpty).map fun p => String.ofList (Utf16.decode p)

/-! ## Requests -/

/-- What a request asks for. -/
inductive Opcode where
  | start | stop | list
  deriving DecidableEq, Repr

/-- The word of an opcode. -/
def Opcode.code : Opcode → UInt16
  | start => 0x53
  | stop => 0x54
  | list => 0x4C

/-- The opcode of a word. -/
def Opcode.ofCode? (w : UInt16) : Option Opcode :=
  [start, stop, list].find? fun o => o.code == w

/-- The verb of an opcode in messages. -/
def Opcode.name : Opcode → String
  | start => "start"
  | stop => "stop"
  | list => "list"

/-- The number of strings that follow an opcode. -/
def Opcode.arity : Opcode → Nat
  | start => 4
  | stop => 3
  | list => 0

/-- The class of instances that this program registers. -/
def ownClass : String := "cloudfuse"

/-- A request to the launcher. -/
inductive Request where
  /-- Start an instance of a class, with the directory and the configuration it is given. -/
  | start (className instanceName mountDir configFile : String)
  /-- Stop an instance of a class. -/
  | stop (className instanceName mountDir : String)
  /-- List the running instances. -/
  | list
  deriving DecidableEq, Repr

namespace Request

/-- What a request asks for. -/
def opcode : Request → Opcode
  | start .. => .start
  | stop .. => .stop
  | list => .list

/-- The strings of a request, in order. -/
def fields : Request → List String
  | start c i m f => [c, i, m, f]
  | stop c i m => [c, i, m]
  | list => []

/-- The bytes of a request. -/
def encode (r : Request) : List UInt8 :=
  bytesOf (r.opcode.code :: r.fields.flatMap terminated)

/-- The request with an opcode and strings, if their number is right. -/
def ofFields? : Opcode → List String → Option Request
  | .start, [c, i, m, f] => some (start c i m f)
  | .stop, [c, i, m] => some (stop c i m)
  | .list, [] => some list
  | _, _ => none

/-- The failure of reading a request. -/
def malformed (detail : String) : SessionError :=
  .protocol "decode" detail

/-- Reads a request as the launcher does. -/
def decode (bytes : List UInt8) : Except SessionError Request :=
  match wordsOf bytes with
  | [] => .error (malformed
      ("request of " ++ Numeral.decimal bytes.length ++ " bytes has no opcode"))
  | code :: rest =>
    match Opcode.ofCode? code with
    | none => .error (malformed ("unknown opcode 0x" ++ Numeral.hex 4 code.toNat))
    | some op =>
      let found := strings rest
      match ofFields? op found with
      | some r => .ok r
      | none => .error (malformed (op.name ++ " request carries " ++ Numeral.decimal found.length
          ++ " strings, expected " ++ Numeral.decimal op.arity))

end Request

/-! ## Responses -/

/-- The word in front of a response that reports success. -/
def success : UInt16 := 0x24

/-- The word in front of a response that reports failure. -/
def refusal : UInt16 := 0x21

/-- The bytes of a response. -/
def response (status : UInt16) (texts : List String) : List UInt8 :=
  bytesOf (status :: texts.flatMap terminated)

/-- The strings of a response that reports success. -/
def payload (op : Opcode) (bytes : List UInt8) : Except SessionError (List String) :=
  match wordsOf bytes with
  | [] => .error (.protocol op.name
      ("launcher returned a short response of " ++ Numeral.decimal bytes.length ++ " bytes"))
  | status :: rest =>
    let texts := filledStrings rest
    if status = success then .ok texts
    else if status = refusal then
      .error (.protocol op.name (if texts.isEmpty then "launcher reported failure"
        else "launcher reported failure (" ++ " ".intercalate texts ++ ")"))
    else .error (.protocol op.name
      ("launcher returned non standard status 0x" ++ Numeral.hex 4 status.toNat))

/-- Strings taken two at a time, if their number is even. -/
def pairUp? : List String → Option (List (String × String))
  | [] => some []
  | a :: b :: rest => (pairUp? rest).map ((a, b) :: ·)
  | [_] => none

/-- The class and the name of each instance in a list response. -/
def pairs (bytes : List UInt8) : Except SessionError (List (String × String)) :=
  match payload .list bytes with
  | .error e => .error e
  | .ok texts =>
    match pairUp? texts with
    | some ps => .ok ps
    | none => .error (.protocol Opcode.list.name
        ("launcher listed " ++ Numeral.decimal texts.length ++ " strings, expected pairs"))

end MountKeeper.Launcher
