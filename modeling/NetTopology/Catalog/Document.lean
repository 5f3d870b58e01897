/-
# Catalog documents

A catalog is written as an object with the poll rate and the declarations by
name. What is written can be read again, but readers accept more: every field
but the address of a device has a default. The name of a device is not part of
its declaration, and an empty list of links is not written.
-/

import NetTopology.Catalog.Table
import NetTopology.Failure
import NetTopology.Json
import NetTopology.Json.Record

namespace NetTopology

open Json (Reader Fields Fault)

namespace DeviceKind

/-- The kind of a given name; a name that no kind has is a fault. -/
def ofWord (word : String) : Except Fault DeviceKind :=
  match ofText? word with
  | some kind => .ok kind
  | none => .error (.misshapen (some (.unknownVariant word (all.map toText))))

/-- The closing bracket of a kind that is written as an object. -/
def endObject (text : List Char) : Except Fault (List Char) :=
  match Json.skipBlanks text with
  | [] => .error .truncated
  | c :: rest => if c = '\x7d' then .ok rest else .error .malformed

/-- The only member of a kind that is written as an object: the name of the kind
as the key, null as the value. -/
def readMember (text : List Char) : Except Fault (DeviceKind × List Char) := do
  let (word, text) ← Reader.readKey text
  let kind ← ofWord word
  let text ← Json.readColon text
  let (_, text) ← Reader.null.run text
  return (kind, text)

/-- A kind after its first character: its name, or an object with the name as
its only key and null as the value. Anything else is malformed. -/
def read (c : Char) (text : List Char) : Except Fault (DeviceKind × List Char) :=
  if c = '"' then (Reader.text.andThen ofWord).run (c :: text)
  else if c = '\x7b' then
    match readMember text with
    | .error fault => .error fault
    | .ok (kind, text) => (endObject text).map fun text => (kind, text)
  else .error .malformed

theorem length_endObject_le {text rest : List Char} (h : endObject text = .ok rest) :
    rest.length ≤ text.length := by
  unfold endObject at h
  grind [→ Json.length_lt_of_skipBlanks_eq_cons]

theorem length_readMember_lt {text rest : List Char} {kind : DeviceKind}
    (h : readMember text = .ok (kind, rest)) : rest.length < text.length := by
  unfold readMember at h
  cases hkey : Reader.readKey text with
  | error => simp [hkey, bind, Except.bind] at h
  | ok key =>
    cases hword : ofWord key.1 with
    | error => simp [hkey, hword, bind, Except.bind] at h
    | ok word =>
      cases hcolon : Json.readColon key.2 with
      | error => simp [hkey, hword, hcolon, bind, Except.bind] at h
      | ok tail =>
        cases hnull : Reader.null.run tail with
        | error => simp [hkey, hword, hcolon, hnull, bind, Except.bind] at h
        | ok read =>
          simp only [hkey, hword, hcolon, hnull, bind, Except.bind, pure, Except.pure,
            Except.ok.injEq, Prod.mk.injEq] at h
          have := Reader.length_readKey_lt hkey
          have := Json.length_readColon_lt hcolon
          have := Reader.null.shorter hnull
          have := congrArg List.length h.2
          omega

def reader : Reader DeviceKind :=
  Reader.ofHead read fun h => by
    unfold read at h
    split at h
    · exact Nat.le_of_lt_succ (Reader.shorter _ h)
    · split at h
      · split at h
        · simp at h
        · rename_i hmember
          have := length_readMember_lt hmember
          obtain ⟨tail, hend, heq⟩ := Fields.exists_of_map_eq_ok h
          have := length_endObject_le hend
          simp only [Prod.mk.injEq] at heq
          have := congrArg List.length heq.2
          omega
      · simp at h

end DeviceKind

namespace Declaration

def reader : Reader Declaration :=
  (Fields.required "ip" Reader.address <|
    Fields.default "type" DeviceKind.reader .snmp <|
    Fields.default "mibs" Reader.text "" <|
    Fields.default "links" (Reader.array Reader.text) [] .done).reader.map
      fun (ip, kind, mibs, links, _) => { ip, kind, mibs, links }

def toJson (declaration : Declaration) : Json :=
  .obj <|
    [("ip", .str declaration.ip.toText), ("type", .str declaration.kind.toText),
      ("mibs", .str declaration.mibs)] ++
    if declaration.links.isEmpty then []
    else [("links", .arr (declaration.links.map .str))]

end Declaration

namespace Catalog

/-- The reader of catalogs before the check of addresses. -/
def tableReader : Reader (UInt64 × DeclarationTable) :=
  (Fields.default "poll-rate" (Reader.natural (1 <<< 64)) defaultPollRate.toNat <|
    Fields.required "devices" (Reader.table Declaration.reader) .done).reader.map
      fun (pollRate, table, _) => (UInt64.ofNat pollRate, table)

def ofDocument (document : String) : Except Failure Catalog :=
  match tableReader.document document with
  | .error fault => .error (.document fault)
  | .ok (pollRate, table) => (ofTable pollRate table).mapError .catalog

/-- Read a catalog from the bytes of a file, if they could be had. -/
def ofFile (content : Except FileFault ByteArray) : Except Failure Catalog :=
  match content with
  | .error fault => .error (.file fault)
  | .ok bytes =>
    match String.fromUTF8? bytes with
    | some document => ofDocument document
    | none => .error (.file .notText)

def toJson (catalog : Catalog) : Json :=
  .obj
    [("poll-rate", .int catalog.pollRate.toNat),
      ("devices", .obj (catalog.declarations.toList.map fun (name, declaration) =>
        (name, declaration.toJson)))]

end Catalog

end NetTopology
