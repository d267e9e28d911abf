import IconAssets.Json.Record

/-!
# Contents documents

Each directory of a catalog holds a document `Contents.json`.  The one at the top only says who
wrote the catalog; the one of an image set names its image and says that the image is a template,
which is drawn in the tint of its surroundings.

Both are written in the indented layout.  The document of an image set is also read back.
-/

namespace IconAssets
namespace Catalog

/-- Who wrote a catalog. -/
structure Info where
  author : Text
  version : UInt32
  deriving DecidableEq, Repr

/-- An image of an image set. -/
structure ImageRecord where
  filename : Text
  idiom : Text
  deriving DecidableEq, Repr

/-- How the images of an image set are drawn. -/
structure ImageProperties where
  templateRenderingIntent : Text
  deriving DecidableEq, Repr

/-- The contents document of an image set. -/
structure EntryContents where
  images : List ImageRecord
  info : Info
  properties : ImageProperties
  deriving DecidableEq, Repr

/-- The contents document at the top of a catalog. -/
structure RootContents where
  info : Info
  deriving DecidableEq, Repr

namespace Info

/-- Written by this library. -/
def standard : Info := ⟨"xcode".toList, 1⟩

def authorKey : Text := "author".toList

def versionKey : Text := "version".toList

/-- The JSON value of the info. -/
def toJson (i : Info) : Json.Value :=
  .object [(authorKey, .string i.author), (versionKey, .number (.integer i.version.toNat))]

/-- How the info is read. -/
def shape : Json.Shape Info where
  name := "CatalogInfo".toList
  blank := ⟨[], 0⟩
  fields :=
    [⟨authorKey, true, fun i t => (Json.readText t).map fun r => ({ i with author := r.1 }, r.2)⟩,
     ⟨versionKey, true,
       fun i t => (Json.readWord32 t).map fun r => ({ i with version := r.1 }, r.2)⟩]

end Info

namespace ImageRecord

def filenameKey : Text := "filename".toList

def idiomKey : Text := "idiom".toList

/-- The JSON value of the record. -/
def toJson (r : ImageRecord) : Json.Value :=
  .object [(filenameKey, .string r.filename), (idiomKey, .string r.idiom)]

/-- How the record is read. -/
def shape : Json.Shape ImageRecord where
  name := "ImageRecord".toList
  blank := ⟨[], []⟩
  fields :=
    [⟨filenameKey, true,
       fun i t => (Json.readText t).map fun r => ({ i with filename := r.1 }, r.2)⟩,
     ⟨idiomKey, true, fun i t => (Json.readText t).map fun r => ({ i with idiom := r.1 }, r.2)⟩]

end ImageRecord

namespace ImageProperties

def intentKey : Text := "template-rendering-intent".toList

/-- The JSON value of the properties. -/
def toJson (p : ImageProperties) : Json.Value :=
  .object [(intentKey, .string p.templateRenderingIntent)]

/-- How the properties are read. -/
def shape : Json.Shape ImageProperties where
  name := "ImageProperties".toList
  blank := ⟨[]⟩
  fields := [⟨intentKey, true, fun _ t => (Json.readText t).map fun r => (⟨r.1⟩, r.2)⟩]

end ImageProperties

namespace EntryContents

def imagesKey : Text := "images".toList

def infoKey : Text := "info".toList

def propertiesKey : Text := "properties".toList

/-- The document of an image set with one image for all devices. -/
def templateImage (filename : Text) : EntryContents :=
  ⟨[⟨filename, "universal".toList⟩], Info.standard, ⟨"template".toList⟩⟩

/-- The name of the first image. -/
def firstFilename? (c : EntryContents) : Option Text := c.images.head?.map (·.filename)

/-- The JSON value of the document. -/
def toJson (c : EntryContents) : Json.Value :=
  .object [(imagesKey, .array (c.images.map ImageRecord.toJson)), (infoKey, c.info.toJson),
    (propertiesKey, c.properties.toJson)]

/-- The text of the document. -/
def print (c : EntryContents) : Text := c.toJson.pretty

/-- How the document is read. -/
def shape : Json.Shape EntryContents where
  name := "EntryContents".toList
  blank := ⟨[], Info.shape.blank, ImageProperties.shape.blank⟩
  fields :=
    [⟨imagesKey, true,
       fun c t => (Json.readList ImageRecord.shape.read t).map fun r =>
         ({ c with images := r.1 }, r.2)⟩,
     ⟨infoKey, true, fun c t => (Info.shape.read t).map fun r => ({ c with info := r.1 }, r.2)⟩,
     ⟨propertiesKey, true,
       fun c t => (ImageProperties.shape.read t).map fun r => ({ c with properties := r.1 }, r.2)⟩]

/-- Reads the document. -/
def parse (t : Text) : Except Json.Fault EntryContents := shape.parse t

end EntryContents

namespace RootContents

/-- The document of every catalog. -/
def standard : RootContents := ⟨Info.standard⟩

/-- The JSON value of the document. -/
def toJson (c : RootContents) : Json.Value := .object [(EntryContents.infoKey, c.info.toJson)]

/-- The text of the document. -/
def print (c : RootContents) : Text := c.toJson.pretty

end RootContents

end Catalog
end IconAssets
