import GlyphBook.Media.Extension

/-!
# Known extensions

The extensions of the usual kinds of files, with the media types that they are known for. This is an
excerpt of what is registered, for programs that have no larger table at hand; the library takes any
table.
-/

namespace GlyphBook

namespace Extension

/-- Usual extensions, by media type. -/
def Table.known : Table where
  rows :=
    [("application/acad", ["dwg"]),
      ("application/atom+xml", ["atom"]),
      ("application/epub+zip", ["epub"]),
      ("application/font-sfnt", ["otf"]),
      ("application/font-woff", ["woff"]),
      ("application/gpx+xml", ["gpx"]),
      ("application/gzip", ["gz"]),
      ("application/java-archive", ["jar"]),
      ("application/javascript", ["mjs"]),
      ("application/json", ["json"]),
      ("application/ld+json", ["jsonld"]),
      ("application/msword", ["doc", "dot"]),
      ("application/pdf", ["pdf"]),
      ("application/postscript", ["ai", "eps", "ps"]),
      ("application/rss+xml", ["rss"]),
      ("application/rtf", ["rtf"]),
      ("application/vnd.android.package-archive", ["apk"]),
      ("application/vnd.dart", ["dart"]),
      ("application/vnd.google-earth.kml+xml", ["kml"]),
      ("application/vnd.ms-excel", ["xls"]),
      ("application/vnd.ms-fontobject", ["eot"]),
      ("application/vnd.ms-pki.stl", ["stl"]),
      ("application/vnd.ms-powerpoint", ["pps", "ppt"]),
      ("application/vnd.oasis.opendocument.database", ["odb"]),
      ("application/vnd.oasis.opendocument.formula", ["odf"]),
      ("application/vnd.oasis.opendocument.graphics", ["odg"]),
      ("application/vnd.oasis.opendocument.presentation", ["odp"]),
      ("application/vnd.oasis.opendocument.spreadsheet", ["ods"]),
      ("application/vnd.oasis.opendocument.text", ["odt"]),
      ("application/vnd.openxmlformats-officedocument.presentationml.presentation", ["pptx"]),
      ("application/vnd.openxmlformats-officedocument.presentationml.slideshow", ["ppsx"]),
      ("application/vnd.openxmlformats-officedocument.spreadsheetml.sheet", ["xlsx"]),
      ("application/vnd.openxmlformats-officedocument.wordprocessingml.document", ["docx"]),
      ("application/vnd.openxmlformats-officedocument.wordprocessingml.template", ["dotx"]),
      ("application/wasm", ["wasm"]),
      ("application/x-7z-compressed", ["7z"]),
      ("application/x-bittorrent", ["torrent"]),
      ("application/x-bzip2", ["bz2"]),
      ("application/x-chrome-extension", ["crx"]),
      ("application/x-compressed", ["tgz"]),
      ("application/x-dxf", ["dxf"]),
      ("application/x-httpd-php", ["php"]),
      ("application/x-java-applet", ["class"]),
      ("application/x-mobipocket-ebook", ["mobi"]),
      ("application/x-msdownload", ["bat", "dll"]),
      ("application/x-perl", ["pl"]),
      ("application/x-rar-compressed", ["rar"]),
      ("application/x-sh", ["sh"]),
      ("application/x-shockwave-flash", ["swf"]),
      ("application/x-sql", ["sql"]),
      ("application/x-subrip", ["srt"]),
      ("application/x-tar", ["tar"]),
      ("application/x-tex", ["tex"]),
      ("application/x-tgif", ["obj"]),
      ("application/x-xz", ["xz"]),
      ("application/xhtml+xml", ["xhtml"]),
      ("application/zip", ["zip"]),
      ("audio/aac", ["aac"]),
      ("audio/aiff", ["aif", "aiff"]),
      ("audio/flac", ["flac"]),
      ("audio/m4a", ["m4a"]),
      ("audio/m4b", ["m4b"]),
      ("audio/mid", ["mid", "midi"]),
      ("audio/mpeg", ["mp3"]),
      ("audio/ogg", ["oga", "ogg", "opus"]),
      ("audio/scpls", ["pls"]),
      ("audio/wav", ["wav"]),
      ("audio/x-mpegurl", ["m3u", "m3u8"]),
      ("audio/x-ms-wma", ["wma"]),
      ("audio/x-pn-realaudio-plugin", ["rpm"]),
      ("font/ttf", ["ttf"]),
      ("font/woff2", ["woff2"]),
      ("image/avif", ["avif"]),
      ("image/bmp", ["bmp"]),
      ("image/gif", ["gif"]),
      ("image/heic", ["heic"]),
      ("image/jpeg", ["jpeg", "jpg"]),
      ("image/jxl", ["jxl"]),
      ("image/png", ["png"]),
      ("image/svg+xml", ["svg"]),
      ("image/tiff", ["tif", "tiff"]),
      ("image/vnd.djvu", ["djvu"]),
      ("image/webp", ["webp"]),
      ("image/x-canon-cr2", ["cr2"]),
      ("image/x-icon", ["ico"]),
      ("image/x-nikon-nef", ["nef"]),
      ("image/x-panasonic-rw", ["raw"]),
      ("message/rfc822", ["eml"]),
      ("model/gltf+json", ["gltf"]),
      ("model/gltf-binary", ["glb"]),
      ("text/calendar", ["ics"]),
      ("text/css", ["css"]),
      ("text/csv", ["csv"]),
      ("text/html", ["htm", "html"]),
      ("text/javascript", ["js"]),
      ("text/markdown", ["md"]),
      ("text/plain", ["c", "conf", "cpp", "h", "ini", "log", "map", "py", "txt"]),
      ("text/tab-separated-values", ["tsv"]),
      ("text/vtt", ["vtt"]),
      ("text/x-lua", ["lua"]),
      ("text/x-rust", ["rs"]),
      ("text/x-toml", ["toml"]),
      ("text/x-vcard", ["vcf"]),
      ("text/x-yaml", ["yaml", "yml"]),
      ("text/xml", ["dtd", "xml", "xsl", "xslt"]),
      ("video/3gpp", ["3gp"]),
      ("video/mp4", ["mp4"]),
      ("video/mpeg", ["mpeg", "mpg"]),
      ("video/ogg", ["ogv"]),
      ("video/quicktime", ["mov"]),
      ("video/vnd.dlna.mpeg-tts", ["m2ts", "ts"]),
      ("video/webm", ["webm"]),
      ("video/x-flv", ["flv"]),
      ("video/x-m4v", ["m4v"]),
      ("video/x-matroska", ["mkv"]),
      ("video/x-ms-wmv", ["wmv"]),
      ("video/x-msvideo", ["avi"])]

end Extension

end GlyphBook
