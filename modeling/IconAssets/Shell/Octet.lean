import IconAssets.Text.Utf8

/-!
# Texts of octets

A shell works on bytes and does not ask what they spell.  Inside it a text has one character for
each byte, with the byte as its code point; at the border texts are written in UTF-8 and read back.

Results:

* `toBytes_ofBytes` : no byte is lost on the way in;
* `toText_ofText` : a text that goes in comes out again.
-/

namespace IconAssets
namespace Shell

/-- The text that stands for bytes. -/
def ofBytes (b : Bytes) : Text := b.map fun x => Char.ofNat x.toNat

/-- The bytes that a text stands for. -/
def toBytes (t : Text) : Bytes := t.map fun c => UInt8.ofNat c.toNat

/-- The text that stands for the bytes of a text. -/
def ofText (t : Text) : Text := ofBytes (Utf8.encode t)

/-- The text that the bytes of a text spell, with a mark for each ill-formed part. -/
def toText (t : Text) : Text := Utf8.decodeLenient (toBytes t)

/-- The text of a message. -/
def say (s : String) : Text := ofText s.toList

theorem ofNat_toNat_ofNat (x : UInt8) : UInt8.ofNat (Char.ofNat x.toNat).toNat = x := by
  have h : x.toNat < 256 := x.toNat_lt
  rw [Char.ofNat, dif_pos (Or.inl (by omega))]
  exact UInt8.ofNat_toNat

/-- Bytes can be had back from their text. -/
@[simp] theorem toBytes_ofBytes (b : Bytes) : toBytes (ofBytes b) = b := by
  rw [toBytes, ofBytes, List.map_map]
  conv => rhs; rw [← List.map_id b]
  exact List.map_congr_left fun x _ => ofNat_toNat_ofNat x

/-- A text that goes into a shell comes out as it was. -/
@[simp] theorem toText_ofText (t : Text) : toText (ofText t) = t := by
  rw [toText, ofText, toBytes_ofBytes, Utf8.decodeLenient_encode]

end Shell
end IconAssets
