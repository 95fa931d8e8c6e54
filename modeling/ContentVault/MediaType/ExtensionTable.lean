/-!
# File name extensions of text formats

The registered media types that denote text, each with the extensions that are
commonly used for it.  No extension occurs twice.
-/

namespace ContentVault.MediaType

/-- Media types of text formats with their extensions in lowercase. -/
def textualExtensions : List (String × List String) := [
  ("application/atom+xml", ["atom"]),
  ("application/atomcat+xml", ["atomcat"]),
  ("application/atomsvc+xml", ["atomsvc"]),
  ("application/ccxml+xml", ["ccxml"]),
  ("application/dash+xml", ["mpd"]),
  ("application/davmount+xml", ["davmount"]),
  ("application/docbook+xml", ["dbk"]),
  ("application/dssc+xml", ["xdssc"]),
  ("application/emma+xml", ["emma"]),
  ("application/geo+json", ["geojson"]),
  ("application/gml+xml", ["gml"]),
  ("application/gpx+xml", ["gpx"]),
  ("application/inkml+xml", ["ink", "inkml"]),
  ("application/javascript", ["mjs"]),
  ("application/json", ["json"]),
  ("application/jsonml+json", ["jsonml"]),
  ("application/ld+json", ["jsonld"]),
  ("application/lost+xml", ["lostxml"]),
  ("application/mads+xml", ["mads"]),
  ("application/manifest+json", ["webmanifest"]),
  ("application/marcxml+xml", ["mrcx"]),
  ("application/mathml+xml", ["mathml"]),
  ("application/mediaservercontrol+xml", ["mscml"]),
  ("application/metalink+xml", ["metalink"]),
  ("application/metalink4+xml", ["meta4"]),
  ("application/mets+xml", ["mets"]),
  ("application/mods+xml", ["mods"]),
  ("application/oebps-package+xml", ["opf"]),
  ("application/omdoc+xml", ["omdoc"]),
  ("application/opensearchdescription+xml", ["osdx"]),
  ("application/patch-ops-error+xml", ["xer"]),
  ("application/pskc+xml", ["pskcxml"]),
  ("application/rdf+xml", ["rdf"]),
  ("application/reginfo+xml", ["rif"]),
  ("application/resource-lists+xml", ["rl"]),
  ("application/resource-lists-diff+xml", ["rld"]),
  ("application/rsd+xml", ["rsd"]),
  ("application/rss+xml", ["rss"]),
  ("application/sbml+xml", ["sbml"]),
  ("application/shf+xml", ["shf"]),
  ("application/smil+xml", ["smil"]),
  ("application/sparql-results+xml", ["srx"]),
  ("application/srgs+xml", ["grxml"]),
  ("application/sru+xml", ["sru"]),
  ("application/ssdl+xml", ["ssdl"]),
  ("application/ssml+xml", ["ssml"]),
  ("application/tei+xml", ["tei", "teicorpus"]),
  ("application/thraud+xml", ["tfi"]),
  ("application/vnd.adobe.xdp+xml", ["xdp"]),
  ("application/vnd.apple.installer+xml", ["mpkg"]),
  ("application/vnd.chemdraw+xml", ["cdxml"]),
  ("application/vnd.citationstyles.style+xml", ["csl"]),
  ("application/vnd.criticaltools.wbs+xml", ["wbs"]),
  ("application/vnd.dece.ttml+xml", ["uvt", "uvvt"]),
  ("application/vnd.eszigno3+xml", ["es3", "et3"]),
  ("application/vnd.google-earth.kml+xml", ["kml"]),
  ("application/vnd.hal+xml", ["hal"]),
  ("application/vnd.handheld-entertainment+xml", ["zmm"]),
  ("application/vnd.irepository.package+xml", ["irp"]),
  ("application/vnd.las.las+xml", ["lasxml"]),
  ("application/vnd.mozilla.xul+xml", ["xul"]),
  ("application/vnd.oma.dd2+xml", ["dd2"]),
  ("application/vnd.recordare.musicxml+xml", ["musicxml"]),
  ("application/vnd.route66.link66+xml", ["link66"]),
  ("application/vnd.solent.sdkm+xml", ["sdkd", "sdkm"]),
  ("application/vnd.sun.wadl+xml", ["wadl"]),
  ("application/vnd.syncml+xml", ["xsm"]),
  ("application/vnd.syncml.dm+xml", ["xdm"]),
  ("application/vnd.uoml+xml", ["uoml"]),
  ("application/vnd.zzazz.deck+xml", ["zaz"]),
  ("application/voicexml+xml", ["vxml"]),
  ("application/windows-library+xml", ["library-ms"]),
  ("application/wspolicy+xml", ["wspolicy"]),
  ("application/x-dtbncx+xml", ["ncx"]),
  ("application/x-dtbook+xml", ["dtb"]),
  ("application/x-dtbresource+xml", ["res"]),
  ("application/x-web-app-manifest+json", ["webapp"]),
  ("application/x-xliff+xml", ["xlf"]),
  ("application/xaml+xml", ["xaml"]),
  ("application/xcap-diff+xml", ["xdf"]),
  ("application/xenc+xml", ["xenc"]),
  ("application/xhtml+xml", ["xht", "xhtml"]),
  ("application/xml", ["asa", "asax", "ascx", "ashx", "asmx", "aspx", "config", "coverage",
    "datasource", "dgml", "filters", "generictest", "hxa", "hxc", "hxe", "hxf", "hxk", "hxv",
    "loadtest", "master", "mtx", "orderedtest", "psess", "rdlc", "resx", "rng", "ruleset",
    "settings", "sitemap", "skin", "snippet", "svc", "testrunconfig", "testsettings", "trx",
    "vcproj", "vcxproj", "vscontent", "vsmdi", "webtest", "wiq", "xmta", "xsc", "xss"]),
  ("application/xop+xml", ["xop"]),
  ("application/xproc+xml", ["xpl"]),
  ("application/xspf+xml", ["xspf"]),
  ("application/xv+xml", ["mxml", "xhvml", "xvm", "xvml"]),
  ("application/yin+xml", ["yin"]),
  ("image/svg+xml", ["svg", "svgz"]),
  ("model/gltf+json", ["gltf"]),
  ("model/vnd.collada+xml", ["dae"]),
  ("model/x3d+xml", ["x3d", "x3dz"]),
  ("text/cache-manifest", ["appcache"]),
  ("text/calendar", ["ics", "ifb"]),
  ("text/coffeescript", ["coffee", "litcoffee"]),
  ("text/css", ["css"]),
  ("text/csv", ["csv"]),
  ("text/dlm", ["dlm"]),
  ("text/gemini", ["gemini", "gmi"]),
  ("text/h323", ["323"]),
  ("text/html", ["htm", "html", "hxt", "shtml"]),
  ("text/iuls", ["uls"]),
  ("text/jade", ["jade"]),
  ("text/javascript", ["ecma", "es", "js", "jsm", "jsx"]),
  ("text/less", ["less"]),
  ("text/markdown", ["markdown", "md"]),
  ("text/mathml", ["mml"]),
  ("text/n3", ["n3"]),
  ("text/plain", ["asm", "bas", "c", "cc", "cd", "cfg", "cmd", "cnf", "conf", "cpp", "cs",
    "csdproj", "csproj", "cxx", "dbproj", "def", "dsw", "h", "hh", "hpp", "hxx", "i", "idl",
    "in", "inc", "ini", "inl", "ipproj", "jsxbin", "list", "log", "lst", "mak", "map", "mk",
    "odh", "odl", "pkgdef", "pkgundef", "py", "rc", "rc2", "rct", "reg", "rgs", "s", "scr",
    "sln", "sol", "sor", "srf", "text", "tlh", "tli", "txt", "user", "vb", "vbdproj", "vbproj",
    "vcs", "vddproj", "vdp", "vdproj", "vspscc", "vsscc", "vssscc", "xdr", "xoml"]),
  ("text/prs.lines.tag", ["dsc"]),
  ("text/richtext", ["rtx"]),
  ("text/scriptlet", ["sct", "wsc"]),
  ("text/sgml", ["sgm", "sgml"]),
  ("text/shex", ["shex"]),
  ("text/slim", ["slim", "slm"]),
  ("text/stylus", ["styl", "stylus"]),
  ("text/tab-separated-values", ["tsv"]),
  ("text/turtle", ["ttl"]),
  ("text/uri-list", ["uri", "uris", "urls"]),
  ("text/vbscript", ["vbs"]),
  ("text/vcard", ["vcard"]),
  ("text/vnd.curl", ["curl"]),
  ("text/vnd.curl.dcurl", ["dcurl"]),
  ("text/vnd.curl.mcurl", ["mcurl"]),
  ("text/vnd.curl.scurl", ["scurl"]),
  ("text/vnd.dvb.subtitle", ["sub"]),
  ("text/vnd.fly", ["fly"]),
  ("text/vnd.fmi.flexstor", ["flx"]),
  ("text/vnd.graphviz", ["gv"]),
  ("text/vnd.in3d.3dml", ["3dml"]),
  ("text/vnd.in3d.spot", ["spot"]),
  ("text/vnd.sun.j2me.app-descriptor", ["jad"]),
  ("text/vnd.wap.wml", ["wml"]),
  ("text/vnd.wap.wmlscript", ["wmls"]),
  ("text/vtt", ["vtt"]),
  ("text/webviewhtml", ["htt"]),
  ("text/x-c", ["dic"]),
  ("text/x-component", ["htc"]),
  ("text/x-fortran", ["f", "f77", "f90", "for"]),
  ("text/x-gherkin", ["feature"]),
  ("text/x-handlebars-template", ["hbs"]),
  ("text/x-hdml", ["hdml"]),
  ("text/x-html-insertion", ["qht", "qhtm"]),
  ("text/x-lua", ["lua"]),
  ("text/x-markdown", ["mkd"]),
  ("text/x-ms-contact", ["contact"]),
  ("text/x-ms-group", ["group"]),
  ("text/x-ms-iqy", ["iqy"]),
  ("text/x-ms-rqy", ["rqy"]),
  ("text/x-nfo", ["nfo"]),
  ("text/x-opml", ["opml"]),
  ("text/x-pascal", ["p", "pas"]),
  ("text/x-processing", ["pde"]),
  ("text/x-rust", ["rs"]),
  ("text/x-sass", ["sass"]),
  ("text/x-scss", ["scss"]),
  ("text/x-setext", ["etx"]),
  ("text/x-sfv", ["sfv"]),
  ("text/x-suse-ymp", ["ymp"]),
  ("text/x-toml", ["toml"]),
  ("text/x-uuencode", ["uu"]),
  ("text/x-vcard", ["vcf"]),
  ("text/x-yaml", ["yaml", "yml"]),
  ("text/xml", ["addin", "disco", "dtd", "dtsconfig", "mno", "ssisdeploymentmanifest", "vml",
    "vsct", "vsixlangpack", "vsixmanifest", "vssettings", "vstemplate", "wsdl", "xml", "xrm-ms",
    "xsd", "xsf", "xsl", "xslt"])]

end ContentVault.MediaType
