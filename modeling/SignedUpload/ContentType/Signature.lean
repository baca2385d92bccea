import SignedUpload.ContentType.Container

/-! The signatures of file formats, in the order in which they are tried. -/
namespace SignedUpload.ContentType

structure Signature where
  mediaType : String
  holds : Bytes → Bool

def isClass (file : Bytes) : Bool :=
  opens [0xCA,0xFE,0xBA,0xBE] file && longer 7 file && 45 ≤ wordAt 4 file &&
    45 ≤ byteAt 6 file * 256 + byteAt 7 file

def isMach (file : Bytes) : Bool :=
  opens [0xCF,0xFA,0xED,0xFE] file || opens [0xCE,0xFA,0xED,0xFE] file ||
    opens [0xFE,0xED,0xFA,0xCF] file || opens [0xFE,0xED,0xFA,0xCE] file ||
    (opens [0xCA,0xFE,0xBA,0xBE] file && longer 7 file && wordAt 4 file < 45)

def isDex (file : Bytes) : Bool := spells 0 "dex\n" file && fits 36 [0x70] file

def isTiffStart (file : Bytes) : Bool :=
  opens [0x49,0x49,0x2A,0] file || opens [0x4D,0x4D,0,0x2A] file

def mp4Brands : List String :=
  ["avc1","dash","iso2","iso3","iso4","iso5","iso6","isom","mmp4","mp41","mp42","mp4v",
    "mp71","MSNV","NDAS","NDSC","NSDC","NDSH","NDSM","NDSP","NDSS","NDXC","NDXH","NDXM",
    "NDXP","NDXS","F4V ","F4P "]

def isArchiveOf (name : String) (file : Bytes) : Bool :=
  opens localHeader file && spells 30 name file

def isOpenDocument (name : String) (file : Bytes) : Bool :=
  isArchiveOf "mimetype" file && spells 50 name file

def isOffice (d : OfficeDocument) (file : Bytes) : Bool := office? file == some d

def programs : List Signature := [
  ⟨"application/wasm",opens [0,0x61,0x73,0x6D,1,0,0,0]⟩,
  ⟨"application/x-executable",fun f => opens [0x7F,0x45,0x4C,0x46] f && longer 52 f⟩,
  ⟨"application/vnd.microsoft.portable-executable",spells 0 "MZ"⟩,
  ⟨"application/java",isClass⟩,
  ⟨"application/x-llvm",spells 0 "BC"⟩,
  ⟨"application/x-mach-binary",isMach⟩,
  ⟨"application/vnd.android.dex",isDex⟩,
  ⟨"application/vnd.android.dey",fun f =>
    spells 0 "dey\n" f && longer 100 f && isDex ((f.drop 40).take 60)⟩,
  ⟨"application/x-x509-ca-cert",fun f => opens [0x30,0x82] f && longer 2 f⟩,
  ⟨"application/x-executable",fun f =>
    (opens [0x64,0x86] f || opens [0x4C,1] f || opens [0,2] f) && longer 2 f⟩,
  ⟨"application/x-x509-ca-cert",fun f => spells 0 "-----BEGIN " f && longer 11 f⟩]

def books : List Signature := [
  ⟨"application/epub+zip",isArchiveOf "mimetypeapplication/epub+zip"⟩,
  ⟨"application/x-mobipocket-ebook",spells 60 "BOOKMOBI"⟩]

def images : List Signature := [
  ⟨"image/jpeg",opens [0xFF,0xD8,0xFF]⟩,
  ⟨"image/jp2",opens [0,0,0,0x0C,0x6A,0x50,0x20,0x20,0x0D,0x0A,0x87,0x0A,0]⟩,
  ⟨"image/png",opens [0x89,0x50,0x4E,0x47]⟩,
  ⟨"image/gif",spells 0 "GIF"⟩,
  ⟨"image/webp",spells 8 "WEBP"⟩,
  ⟨"image/x-canon-cr2",fun f => isTiffStart f && fits 8 [0x43,0x52,2] f⟩,
  ⟨"image/tiff",fun f =>
    isTiffStart f && longer 9 f && byteAt 8 f != 0x43 && byteAt 9 f != 0x52⟩,
  ⟨"image/bmp",spells 0 "BM"⟩,
  ⟨"image/vnd.ms-photo",opens [0x49,0x49,0xBC]⟩,
  ⟨"image/vnd.adobe.photoshop",spells 0 "8BPS"⟩,
  ⟨"image/vnd.microsoft.icon",opens [0,0,1,0]⟩,
  ⟨"image/heif",isHeif⟩,
  ⟨"image/avif",isAvif⟩,
  ⟨"image/jxl",fun f =>
    (opens [0xFF,0x0A] f && longer 2 f) ||
      (opens [0,0,0,0x0C,0x4A,0x58,0x4C,0x20,0x0D,0x0A,0x87,0x0A] f && longer 12 f)⟩,
  ⟨"image/openraster",fun f => isArchiveOf "mimetypeimage/openraster" f && longer 57 f⟩]

def videos : List Signature := [
  ⟨"video/mp4",fun f => spells 4 "ftyp" f && mp4Brands.any fun b => spells 8 b f⟩,
  ⟨"video/x-m4v",spells 4 "ftypM4V"⟩,
  ⟨"video/x-matroska",fun f =>
    (opens [0x1A,0x45,0xDF,0xA3,0x93,0x42,0x82,0x88] f && spells 8 "matroska" f) ||
      spells 31 "matroska" f⟩,
  ⟨"video/webm",opens [0x1A,0x45,0xDF,0xA3]⟩,
  ⟨"video/quicktime",fun f =>
    longer 15 f && (spells 4 "ftypqt  " f || spells 4 "moov" f || spells 4 "mdat" f ||
      spells 12 "mdat" f)⟩,
  ⟨"video/x-msvideo",fun f => spells 0 "RIFF" f && spells 8 "AVI" f⟩,
  ⟨"video/x-ms-wmv",opens [0x30,0x26,0xB2,0x75,0x8E,0x66,0xCF,0x11,0xA6,0xD9]⟩,
  ⟨"video/mpeg",fun f =>
    opens [0,0,1] f && 0xB0 ≤ byteAt 3 f && byteAt 3 f ≤ 0xBF⟩,
  ⟨"video/x-flv",opens [0x46,0x4C,0x56,1]⟩]

def sounds : List Signature := [
  ⟨"audio/midi",spells 0 "MThd"⟩,
  ⟨"audio/mpeg",fun f => longer 2 f && (spells 0 "ID3" f || opens [0xFF,0xFB] f)⟩,
  ⟨"audio/m4a",fun f => longer 10 f && (spells 4 "ftypM4A" f || spells 0 "M4A " f)⟩,
  ⟨"audio/opus",fun f => spells 0 "OggS" f && spells 28 "OpusHead" f⟩,
  ⟨"audio/ogg",spells 0 "OggS"⟩,
  ⟨"audio/x-flac",spells 0 "fLaC"⟩,
  ⟨"audio/x-wav",fun f => spells 0 "RIFF" f && spells 8 "WAVE" f⟩,
  ⟨"audio/amr",fun f => spells 0 "#!AMR\n" f && longer 11 f⟩,
  ⟨"audio/aac",fun f => opens [0xFF,0xF1] f || opens [0xFF,0xF9] f⟩,
  ⟨"audio/x-aiff",fun f => spells 0 "FORM" f && spells 8 "AIFF" f⟩,
  ⟨"audio/x-dsf",fun f => spells 0 "DSD " f && longer 4 f⟩,
  ⟨"audio/x-ape",fun f => spells 0 "MAC " f && longer 4 f⟩]

def fonts : List Signature := [
  ⟨"application/font-woff",fun f =>
    (spells 0 "wOFF" f || spells 0 "wOF2" f) && fits 4 [0,1,0,0] f⟩,
  ⟨"application/font-sfnt",fun f =>
    opens [0,1,0,0,0] f || opens [0x4F,0x54,0x54,0x4F,0] f⟩]

/-- Office documents in archives. The older ones, told by the class id of a compound file, are left out:
such a file is only known by its container. -/
def documents : List Signature := [
  ⟨"application/vnd.openxmlformats-officedocument.wordprocessingml.document",isOffice .text⟩,
  ⟨"application/vnd.openxmlformats-officedocument.spreadsheetml.sheet",isOffice .sheet⟩,
  ⟨"application/vnd.openxmlformats-officedocument.presentationml.presentation",
    isOffice .slides⟩,
  ⟨"application/vnd.oasis.opendocument.text",isOpenDocument "vnd.oasis.opendocument.text"⟩,
  ⟨"application/vnd.oasis.opendocument.spreadsheet",
    isOpenDocument "vnd.oasis.opendocument.spreadsheet"⟩,
  ⟨"application/vnd.oasis.opendocument.presentation",
    isOpenDocument "vnd.oasis.opendocument.presentation"⟩]

def archives : List Signature := [
  ⟨"application/zip",fun f =>
    opens [0x50,0x4B,3,4] f || opens [0x50,0x4B,5,6] f || opens [0x50,0x4B,7,8] f ||
      opens [0x50,0x4B,0x30,0x30,0x50,0x4B,3,4] f⟩,
  ⟨"application/x-tar",spells 257 "ustar"⟩,
  ⟨"application/vnd.rar",fun f =>
    spells 0 "Rar!" f && (fits 4 [0x1A,7,0] f || fits 4 [0x1A,7,1] f)⟩,
  ⟨"application/gzip",opens [0x1F,0x8B,8]⟩,
  ⟨"application/x-bzip2",spells 0 "BZh"⟩,
  ⟨"application/x-7z-compressed",opens [0x37,0x7A,0xBC,0xAF,0x27,0x1C]⟩,
  ⟨"application/x-xz",opens [0xFD,0x37,0x7A,0x58,0x5A,0]⟩,
  ⟨"application/pdf",spells 0 "%PDF"⟩,
  ⟨"application/x-shockwave-flash",fun f => spells 0 "CWS" f || spells 0 "FWS" f⟩,
  ⟨"application/rtf",spells 0 "\x7b\\rtf"⟩,
  ⟨"application/octet-stream",fun f =>
    spells 34 "LP" f && (fits 8 [2,0,1] f || fits 8 [1,0,0] f || fits 8 [2,0,2] f)⟩,
  ⟨"application/postscript",spells 0 "%!"⟩,
  ⟨"application/vnd.sqlite3",spells 0 "SQLi"⟩,
  ⟨"application/x-nintendo-nes-rom",opens [0x4E,0x45,0x53,0x1A]⟩,
  ⟨"application/x-google-chrome-extension",spells 0 "Cr24"⟩,
  ⟨"application/vnd.ms-cab-compressed",fun f => spells 0 "MSCF" f || spells 0 "ISc(" f⟩,
  ⟨"application/vnd.debian.binary-package",spells 0 "!<arch>\ndebian-binary"⟩,
  ⟨"application/x-unix-archive",spells 0 "!<arch>"⟩,
  ⟨"application/x-compress",fun f => opens [0x1F,0xA0] f || opens [0x1F,0x9D] f⟩,
  ⟨"application/x-lzip",spells 0 "LZIP"⟩,
  ⟨"application/x-rpm",fun f => opens [0xED,0xAB,0xEE,0xDB] f && longer 96 f⟩,
  ⟨"application/dicom",spells 128 "DICM"⟩,
  ⟨"application/zstd",fun f => isZstandard (f.length + 1) f⟩,
  ⟨"application/x-ole-storage",opens [0xD0,0xCF,0x11,0xE0,0xA1,0xB1,0x1A,0xE1]⟩,
  ⟨"application/x-cpio",fun f =>
    opens [0xC7,0x71] f || opens [0x71,0xC7] f || (spells 0 "070701" f && longer 6 f)⟩]

def texts : List Signature := [
  ⟨"text/html",isHtml⟩,
  ⟨"text/xml",isXml⟩,
  ⟨"text/x-shellscript",fun f => spells 0 "#!" f && longer 2 f⟩]

def signatures : List Signature :=
  programs ++ books ++ images ++ videos ++ sounds ++ fonts ++ documents ++ archives ++ texts

end SignedUpload.ContentType
