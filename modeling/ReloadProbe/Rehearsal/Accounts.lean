/-! Who has an account on a model machine. -/
namespace ReloadProbe.Rehearsal

structure Account where
  name : String
  id : Nat
  group : Nat
  home : String
  shell : String := "/usr/sbin/nologin"
  comment : String := ""

namespace Account

def all : List Account :=
  [{ name := "root", id := 0, group := 0, home := "/root", shell := "/bin/bash"
     comment := "root" },
    { name := "daemon", id := 1, group := 1, home := "/usr/sbin", comment := "daemon" },
    { name := "bin", id := 2, group := 2, home := "/bin", comment := "bin" },
    { name := "sys", id := 3, group := 3, home := "/dev", comment := "sys" },
    { name := "sync", id := 4, group := 65534, home := "/bin", shell := "/bin/sync",
      comment := "sync" },
    { name := "games", id := 5, group := 60, home := "/usr/games", comment := "games" },
    { name := "man", id := 6, group := 12, home := "/var/cache/man", comment := "man" },
    { name := "lp", id := 7, group := 7, home := "/var/spool/lpd", comment := "lp" },
    { name := "mail", id := 8, group := 8, home := "/var/mail", comment := "mail" },
    { name := "news", id := 9, group := 9, home := "/var/spool/news", comment := "news" },
    { name := "uucp", id := 10, group := 10, home := "/var/spool/uucp", comment := "uucp" },
    { name := "proxy", id := 13, group := 13, home := "/bin", comment := "proxy" },
    { name := "www-data", id := 33, group := 33, home := "/var/www", comment := "www-data" },
    { name := "backup", id := 34, group := 34, home := "/var/backups", comment := "backup" },
    { name := "list", id := 38, group := 38, home := "/var/list",
      comment := "Mailing List Manager" },
    { name := "irc", id := 39, group := 39, home := "/run/ircd", comment := "ircd" },
    { name := "_apt", id := 42, group := 65534, home := "/nonexistent" },
    { name := "nobody", id := 65534, group := 65534, home := "/nonexistent",
      comment := "nobody" }]

def line (a : Account) : String :=
  ":".intercalate [a.name, "x", toString a.id, toString a.group, a.comment, a.home, a.shell] ++ "\n"

def home? (name : String) : Option String :=
  (all.find? fun a => a.name = name).map Account.home

end Account
end ReloadProbe.Rehearsal
