import ModuleGraph.Builtins

/-!
# The symbols of the core language

`Builtins.core` is the catalogue that a run uses when no other is given: the resource types with
their providers, the data types, the aliases and the functions that need no module.
-/

namespace ModuleGraph.Builtins

/-- The catalogue of the core language. -/
def core : Builtins where
  version := "7.28.0"
  resourceTypes := [
    ("component", []),
    ("exec", ["posix", "shell", "windows"]),
    ("file", ["posix", "windows"]),
    ("filebucket", []),
    ("group", ["aix", "directoryservice", "groupadd", "ldap", "pw", "windows_adsi"]),
    ("notify", []),
    ("package", ["aix", "appdmg", "apple", "apt", "aptitude", "aptrpm", "blastwave", "dnf",
      "dnfmodule", "dpkg", "fink", "freebsd", "gem", "hpux", "macports", "nim", "openbsd", "opkg",
      "pacman", "pip", "pip2", "pip3", "pkg", "pkgdmg", "pkgin", "pkgng", "pkgutil", "portage",
      "ports", "portupgrade", "puppet_gem", "puppetserver_gem", "rpm", "rug", "sun",
      "sunfreeware", "tdnf", "up2date", "urpmi", "windows", "yum", "zypper"]),
    ("resources", []),
    ("schedule", []),
    ("service", ["base", "bsd", "daemontools", "debian", "freebsd", "gentoo", "init", "launchd",
      "openbsd", "openrc", "openwrt", "rcng", "redhat", "runit", "service", "smf", "src",
      "systemd", "upstart", "windows"]),
    ("stage", []),
    ("tidy", []),
    ("user", ["aix", "directoryservice", "hpuxuseradd", "ldap", "openbsd", "pw", "user_role_add",
      "useradd", "windows_adsi"]),
    ("whit", [])]
  providerClasses := [
    "aix_object", "command", "exec", "ldap", "nameservice", "package", "package_targetable",
    "parsedfile"]
  dataTypes := [
    "any", "array", "binary", "boolean", "callable", "catalogentry", "class", "collection",
    "data", "default", "deferred", "enum", "error", "float", "hash", "init", "integer",
    "iterable", "iterator", "notundef", "numeric", "object", "optional", "pattern", "regexp",
    "resource", "richdata", "runtime", "scalar", "scalardata", "semver", "semverrange",
    "sensitive", "string", "struct", "timespan", "timestamp", "tuple", "type", "typealias",
    "typereference", "typeset", "undef", "uri", "variant"]
  typeAliases := [
    "Data", "RichDataKey", "RichData"]
  functions := [
    "abs", "alert", "all", "annotate", "any", "assert_type", "binary_file", "break", "call",
    "camelcase", "capitalize", "ceiling", "chomp", "chop", "compare", "contain", "convert_to",
    "crit", "debug", "defined", "dig", "downcase", "each", "emerg", "empty", "epp", "err",
    "eyaml_lookup_key", "filter", "find_file", "find_template", "flatten", "floor", "get",
    "getvar", "group_by", "hiera", "hiera_array", "hiera_hash", "hiera_include", "hocon_data",
    "include", "index", "info", "inline_epp", "join", "json_data", "keys", "length", "lest",
    "lookup", "lstrip", "map", "match", "max", "min", "module_directory", "new", "next",
    "notice", "partition", "reduce", "regsubst", "require", "return", "reverse_each", "round",
    "rstrip", "scanf", "size", "slice", "sort", "split", "sprintf", "step", "strftime", "strip",
    "tree_each", "type", "unique", "unwrap", "upcase", "values", "versioncmp", "warning", "with",
    "yaml_data"]
  legacyFunctions := [
    "contain", "create_resources", "defined", "digest", "dig", "epp", "fail", "file",
    "fqdn_rand", "generate", "hiera", "hiera_array", "hiera_hash", "hiera_include", "include",
    "inline_epp", "inline_template", "lookup", "md5", "realize", "regsubst", "require", "search",
    "sha1", "sha256", "shellquote", "split", "sprintf", "tag", "tagged", "template", "versioncmp"]

end ModuleGraph.Builtins
