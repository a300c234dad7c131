/-!
# Zone histories

A zone opens with its name on a line of its own.  Each era below it gives the standard
offset, the saving (`-` for none, a fixed saving, or the name of a rule set) and, for
every era but the last, the date and the time of day at which it ends.
-/

namespace HouseholdDashboard.Zone

/-- The zones that have a history of their own, one zone after the other. -/
def eraTable : String := "Africa/Abidjan
 -0:16:08 - 1912 1 1 0
 0 -
Africa/Algiers
 0:12:12 - 1891 3 16 0
 0:09:21 - 1911 3 11 0
 0 d 1940 2 25 2
 1 d 1946 10 7 0
 0 - 1956 1 29 0
 1 - 1963 4 14 0
 0 d 1977 10 21 0
 1 d 1979 10 26 0
 0 d 1981 5 1 0
 1 -
Africa/Bissau
 -1:02:20 - 1912 1 1 1u
 -1 - 1975 1 1 0
 0 -
Africa/Cairo
 2:05:09 - 1900 10 1 0
 2 K
Africa/Casablanca
 -0:30:20 - 1913 10 26 0
 0 M 1984 3 16 0
 1 - 1986 1 1 0
 0 M 2018 10 28 3
 0 M
Africa/Ceuta
 -0:21:16 - 1901 1 1 0u
 0 - 1918 5 6 23
 0 1 1918 10 7 23
 0 - 1924 1 1 0
 0 s 1929 1 1 0
 0 - 1967 1 1 0
 0 Sp 1984 3 16 0
 1 - 1986 1 1 0
 1 E
Africa/El_Aaiun
 -0:52:48 - 1934 1 1 0
 -1 - 1976 4 14 0
 0 M 2018 10 28 3
 0 M
Africa/Johannesburg
 1:52 - 1892 2 8 0
 1:30 - 1903 3 1 0
 2 SA
Africa/Juba
 2:06:28 - 1931 1 1 0
 2 SD 2000 1 15 12
 3 - 2021 2 1 0
 2 -
Africa/Khartoum
 2:10:08 - 1931 1 1 0
 2 SD 2000 1 15 12
 3 - 2017 11 1 0
 2 -
Africa/Lagos
 0:13:35 - 1905 7 1 0
 0 - 1908 7 1 0
 0:13:35 - 1914 1 1 0
 0:30 - 1919 9 1 0
 1 -
Africa/Maputo
 2:10:18 - 1909 1 1 0
 2 -
Africa/Monrovia
 -0:43:08 - 1882 1 1 0
 -0:43:08 - 1919 3 1 0
 -0:44:30 - 1972 1 7 0
 0 -
Africa/Nairobi
 2:27:16 - 1908 5 1 0
 2:30 - 1928 6 30 24
 3 - 1930 1 4 24
 2:30 - 1936 12 31 24
 2:45 - 1942 7 31 24
 3 -
Africa/Ndjamena
 1:00:12 - 1912 1 1 0
 1 - 1979 10 14 0
 1 1 1980 3 8 0
 1 -
Africa/Sao_Tome
 0:26:56 - 1884 1 1 0
 -0:36:45 - 1912 1 1 0u
 0 - 2018 1 1 1
 1 - 2019 1 1 2
 0 -
Africa/Tripoli
 0:52:44 - 1920 1 1 0
 1 L 1959 1 1 0
 2 - 1982 1 1 0
 1 L 1990 5 4 0
 2 - 1996 9 30 0
 1 L 1997 10 4 0
 2 - 2012 11 10 2
 1 L 2013 10 25 2
 2 -
Africa/Tunis
 0:40:44 - 1881 5 12 0
 0:09:21 - 1911 3 11 0
 1 n
Africa/Windhoek
 1:08:24 - 1892 2 8 0
 1:30 - 1903 3 1 0
 2 - 1942 9 20 2
 2 1 1943 3 21 2
 2 - 1990 3 21 0
 2 - 1994 3 21 0
 1 NA 2017 10 24 0
 2 -
America/Adak
 12:13:22 - 1867 10 19 12:44:35
 -11:46:38 - 1900 8 20 12
 -11 - 1942 1 1 0
 -11 u 1946 1 1 0
 -11 - 1967 4 1 0
 -11 - 1969 1 1 0
 -11 u 1983 10 30 2
 -10 u 1983 11 30 0
 -10 u
America/Anchorage
 14:00:24 - 1867 10 19 14:31:37
 -9:59:36 - 1900 8 20 12
 -10 - 1942 1 1 0
 -10 u 1967 4 1 0
 -10 - 1969 1 1 0
 -10 u 1983 10 30 2
 -9 u 1983 11 30 0
 -9 u
America/Araguaina
 -3:12:48 - 1914 1 1 0
 -3 B 1990 9 17 0
 -3 - 1995 9 14 0
 -3 B 2003 9 24 0
 -3 - 2012 10 21 0
 -3 B 2013 9 1 0
 -3 -
America/Argentina/Buenos_Aires
 -3:53:48 - 1894 10 31 0
 -4:16:48 - 1920 5 1 0
 -4 - 1930 12 1 0
 -4 A 1969 10 5 0
 -3 A 1999 10 3 0
 -4 A 2000 3 3 0
 -3 A
America/Argentina/Catamarca
 -4:23:08 - 1894 10 31 0
 -4:16:48 - 1920 5 1 0
 -4 - 1930 12 1 0
 -4 A 1969 10 5 0
 -3 A 1991 3 3 0
 -4 - 1991 10 20 0
 -3 A 1999 10 3 0
 -4 A 2000 3 3 0
 -3 - 2004 6 1 0
 -4 - 2004 6 20 0
 -3 A 2008 10 18 0
 -3 -
America/Argentina/Cordoba
 -4:16:48 - 1894 10 31 0
 -4:16:48 - 1920 5 1 0
 -4 - 1930 12 1 0
 -4 A 1969 10 5 0
 -3 A 1991 3 3 0
 -4 - 1991 10 20 0
 -3 A 1999 10 3 0
 -4 A 2000 3 3 0
 -3 A
America/Argentina/Jujuy
 -4:21:12 - 1894 10 31 0
 -4:16:48 - 1920 5 1 0
 -4 - 1930 12 1 0
 -4 A 1969 10 5 0
 -3 A 1990 3 4 0
 -4 - 1990 10 28 0
 -4 1 1991 3 17 0
 -4 - 1991 10 6 0
 -3 1 1992 1 1 0
 -3 A 1999 10 3 0
 -4 A 2000 3 3 0
 -3 A 2008 10 18 0
 -3 -
America/Argentina/La_Rioja
 -4:27:24 - 1894 10 31 0
 -4:16:48 - 1920 5 1 0
 -4 - 1930 12 1 0
 -4 A 1969 10 5 0
 -3 A 1991 3 1 0
 -4 - 1991 5 7 0
 -3 A 1999 10 3 0
 -4 A 2000 3 3 0
 -3 - 2004 6 1 0
 -4 - 2004 6 20 0
 -3 A 2008 10 18 0
 -3 -
America/Argentina/Mendoza
 -4:35:16 - 1894 10 31 0
 -4:16:48 - 1920 5 1 0
 -4 - 1930 12 1 0
 -4 A 1969 10 5 0
 -3 A 1990 3 4 0
 -4 - 1990 10 15 0
 -4 1 1991 3 1 0
 -4 - 1991 10 15 0
 -4 1 1992 3 1 0
 -4 - 1992 10 18 0
 -3 A 1999 10 3 0
 -4 A 2000 3 3 0
 -3 - 2004 5 23 0
 -4 - 2004 9 26 0
 -3 A 2008 10 18 0
 -3 -
America/Argentina/Rio_Gallegos
 -4:36:52 - 1894 10 31 0
 -4:16:48 - 1920 5 1 0
 -4 - 1930 12 1 0
 -4 A 1969 10 5 0
 -3 A 1999 10 3 0
 -4 A 2000 3 3 0
 -3 - 2004 6 1 0
 -4 - 2004 6 20 0
 -3 A 2008 10 18 0
 -3 -
America/Argentina/Salta
 -4:21:40 - 1894 10 31 0
 -4:16:48 - 1920 5 1 0
 -4 - 1930 12 1 0
 -4 A 1969 10 5 0
 -3 A 1991 3 3 0
 -4 - 1991 10 20 0
 -3 A 1999 10 3 0
 -4 A 2000 3 3 0
 -3 A 2008 10 18 0
 -3 -
America/Argentina/San_Juan
 -4:34:04 - 1894 10 31 0
 -4:16:48 - 1920 5 1 0
 -4 - 1930 12 1 0
 -4 A 1969 10 5 0
 -3 A 1991 3 1 0
 -4 - 1991 5 7 0
 -3 A 1999 10 3 0
 -4 A 2000 3 3 0
 -3 - 2004 5 31 0
 -4 - 2004 7 25 0
 -3 A 2008 10 18 0
 -3 -
America/Argentina/San_Luis
 -4:25:24 - 1894 10 31 0
 -4:16:48 - 1920 5 1 0
 -4 - 1930 12 1 0
 -4 A 1969 10 5 0
 -3 A 1990 1 1 0
 -3 1 1990 3 14 0
 -4 - 1990 10 15 0
 -4 1 1991 3 1 0
 -4 - 1991 6 1 0
 -3 - 1999 10 3 0
 -4 1 2000 3 3 0
 -3 - 2004 5 31 0
 -4 - 2004 7 25 0
 -3 A 2008 1 21 0
 -4 Sa 2009 10 11 0
 -3 -
America/Argentina/Tucuman
 -4:20:52 - 1894 10 31 0
 -4:16:48 - 1920 5 1 0
 -4 - 1930 12 1 0
 -4 A 1969 10 5 0
 -3 A 1991 3 3 0
 -4 - 1991 10 20 0
 -3 A 1999 10 3 0
 -4 A 2000 3 3 0
 -3 - 2004 6 1 0
 -4 - 2004 6 13 0
 -3 A
America/Argentina/Ushuaia
 -4:33:12 - 1894 10 31 0
 -4:16:48 - 1920 5 1 0
 -4 - 1930 12 1 0
 -4 A 1969 10 5 0
 -3 A 1999 10 3 0
 -4 A 2000 3 3 0
 -3 - 2004 5 30 0
 -4 - 2004 6 20 0
 -3 A 2008 10 18 0
 -3 -
America/Asuncion
 -3:50:40 - 1890 1 1 0
 -3:50:40 - 1931 10 10 0
 -4 - 1972 10 1 0
 -3 - 1974 4 1 0
 -4 y 2024 10 15 0
 -3 -
America/Bahia
 -2:34:04 - 1914 1 1 0
 -3 B 2003 9 24 0
 -3 - 2011 10 16 0
 -3 B 2012 10 21 0
 -3 -
America/Bahia_Banderas
 -7:01 - 1922 1 1 7u
 -7 - 1927 6 10 0
 -6 - 1930 11 15 0
 -7 m 1932 4 1 0
 -6 - 1942 4 24 0
 -7 - 1970 1 1 0
 -7 m 2010 4 4 2
 -6 m
America/Barbados
 -3:58:29 - 1911 8 28 0
 -4 BB 1944 1 1 0
 -4 BB 1945 1 1 0
 -4 BB
America/Belem
 -3:13:56 - 1914 1 1 0
 -3 B 1988 9 12 0
 -3 -
America/Belize
 -5:52:48 - 1912 4 1 0
 -6 BZ
America/Boa_Vista
 -4:02:40 - 1914 1 1 0
 -4 B 1988 9 12 0
 -4 - 1999 9 30 0
 -4 B 2000 10 15 0
 -4 -
America/Bogota
 -4:56:16 - 1884 3 13 0
 -4:56:16 - 1914 11 23 0
 -5 CO
America/Boise
 -7:44:49 - 1883 11 18 20u
 -8 u 1923 5 13 2
 -7 u 1974 1 1 0
 -7 - 1974 2 3 2
 -7 u
America/Cambridge_Bay
 0 - 1920 1 1 0
 -7 Y 1999 10 31 2
 -6 C 2000 10 29 2
 -5 - 2000 11 5 0
 -6 - 2001 4 1 3
 -7 C
America/Campo_Grande
 -3:38:28 - 1914 1 1 0
 -4 B
America/Cancun
 -5:47:04 - 1922 1 1 6u
 -6 - 1981 12 26 2
 -5 - 1983 1 4 0
 -6 m 1997 10 26 2
 -5 m 1998 8 2 2
 -6 m 2015 2 1 2
 -5 -
America/Caracas
 -4:27:44 - 1890 1 1 0
 -4:27:40 - 1912 2 12 0
 -4:30 - 1965 1 1 0
 -4 - 2007 12 9 3
 -4:30 - 2016 5 1 2:30
 -4 -
America/Cayenne
 -3:29:20 - 1911 7 1 0
 -4 - 1967 10 1 0
 -3 -
America/Chicago
 -5:50:36 - 1883 11 18 18u
 -6 u 1920 1 1 0
 -6 Ch 1936 3 1 2
 -5 - 1936 11 15 2
 -6 Ch 1942 1 1 0
 -6 u 1946 1 1 0
 -6 Ch 1967 1 1 0
 -6 u
America/Chihuahua
 -7:04:20 - 1922 1 1 7u
 -7 - 1927 6 10 0
 -6 - 1930 11 15 0
 -7 m 1932 4 1 0
 -6 - 1996 1 1 0
 -6 m 1998 1 1 0
 -6 - 1998 4 5 3
 -7 m 2022 10 30 2
 -6 -
America/Ciudad_Juarez
 -7:05:56 - 1922 1 1 7u
 -7 - 1927 6 10 0
 -6 - 1930 11 15 0
 -7 m 1932 4 1 0
 -6 - 1996 1 1 0
 -6 m 1998 1 1 0
 -6 - 1998 4 5 3
 -7 m 2010 1 1 0
 -7 u 2022 10 30 2
 -6 - 2022 11 30 0
 -7 u
America/Costa_Rica
 -5:36:13 - 1890 1 1 0
 -5:36:13 - 1921 1 15 0
 -6 CR
America/Coyhaique
 -4:48:16 - 1890 1 1 0
 -4:42:45 - 1910 1 10 0
 -5 - 1916 7 1 0
 -4:42:45 - 1918 9 10 0
 -4 - 1919 7 1 0
 -4:42:45 - 1927 9 1 0
 -5 x 1932 9 1 0
 -4 - 1942 6 1 0
 -5 - 1942 8 1 0
 -4 - 1946 8 28 24
 -5 1 1947 3 31 24
 -5 - 1947 5 21 23
 -4 x 2025 3 20 0
 -3 -
America/Cuiaba
 -3:44:20 - 1914 1 1 0
 -4 B 2003 9 24 0
 -4 - 2004 10 1 0
 -4 B
America/Danmarkshavn
 -1:14:40 - 1916 7 28 0
 -3 - 1980 4 6 2
 -3 E 1996 1 1 0
 0 -
America/Dawson
 -9:17:40 - 1900 8 20 0
 -9 Y 1965 1 1 0
 -9 Yu 1973 10 28 0
 -8 - 1980 1 1 0
 -8 C 2020 11 1 0
 -7 -
America/Dawson_Creek
 -8:00:56 - 1884 1 1 0
 -8 C 1947 1 1 0
 -8 Va 1972 8 30 2
 -7 -
America/Denver
 -6:59:56 - 1883 11 18 19u
 -7 u 1920 1 1 0
 -7 De 1942 1 1 0
 -7 u 1946 1 1 0
 -7 De 1967 1 1 0
 -7 u
America/Detroit
 -5:32:11 - 1905 1 1 0
 -6 - 1915 5 15 2
 -5 - 1942 1 1 0
 -5 u 1946 1 1 0
 -5 Dt 1967 6 14 0:01
 -5 u 1969 1 1 0
 -5 - 1973 1 1 0
 -5 u 1975 1 1 0
 -5 - 1975 4 27 2
 -5 u
America/Edmonton
 -7:33:52 - 1906 9 1 0
 -7 Ed 1987 1 1 0
 -7 C
America/Eirunepe
 -4:39:28 - 1914 1 1 0
 -5 B 1988 9 12 0
 -5 - 1993 9 28 0
 -5 B 1994 9 22 0
 -5 - 2008 6 24 0
 -4 - 2013 11 10 0
 -5 -
America/El_Salvador
 -5:56:48 - 1921 1 1 0
 -6 SV
America/Fort_Nelson
 -8:10:47 - 1884 1 1 0
 -8 Va 1946 1 1 0
 -8 - 1947 1 1 0
 -8 Va 1987 1 1 0
 -8 C 2015 3 8 2
 -7 -
America/Fortaleza
 -2:34 - 1914 1 1 0
 -3 B 1990 9 17 0
 -3 - 1999 9 30 0
 -3 B 2000 10 22 0
 -3 - 2001 9 13 0
 -3 B 2002 10 1 0
 -3 -
America/Glace_Bay
 -3:59:48 - 1902 6 15 0
 -4 C 1953 1 1 0
 -4 H 1954 1 1 0
 -4 - 1972 1 1 0
 -4 H 1974 1 1 0
 -4 C
America/Goose_Bay
 -4:01:40 - 1884 1 1 0
 -3:30:52 - 1918 1 1 0
 -3:30:52 C 1919 1 1 0
 -3:30:52 - 1935 3 30 0
 -3:30 - 1936 1 1 0
 -3:30 j 1942 5 11 0
 -3:30 C 1946 1 1 0
 -3:30 j 1966 3 15 2
 -4 j 2011 11 1 0
 -4 C
America/Grand_Turk
 -4:44:32 - 1890 1 1 0
 -5:07:10 - 1912 2 1 0
 -5 - 1979 1 1 0
 -5 u 2015 3 8 2
 -4 - 2018 3 11 3
 -5 u
America/Guatemala
 -6:02:04 - 1918 10 5 0
 -6 GT
America/Guayaquil
 -5:19:20 - 1890 1 1 0
 -5:14 - 1931 1 1 0
 -5 EC
America/Guyana
 -3:52:39 - 1911 8 1 0
 -4 - 1915 3 1 0
 -3:45 - 1975 8 1 0
 -3 - 1992 3 29 1
 -4 -
America/Halifax
 -4:14:24 - 1902 6 15 0
 -4 H 1918 1 1 0
 -4 C 1919 1 1 0
 -4 H 1942 2 9 2s
 -4 C 1946 1 1 0
 -4 H 1974 1 1 0
 -4 C
America/Havana
 -5:29:28 - 1890 1 1 0
 -5:29:36 - 1925 7 19 12
 -5 Q
America/Hermosillo
 -7:23:52 - 1922 1 1 7u
 -7 - 1927 6 10 0
 -6 - 1930 11 15 0
 -7 m 1932 4 1 0
 -6 - 1942 4 24 0
 -7 - 1996 1 1 0
 -7 m 1999 1 1 0
 -7 -
America/Indiana/Indianapolis
 -5:44:38 - 1883 11 18 18u
 -6 u 1920 1 1 0
 -6 In 1942 1 1 0
 -6 u 1946 1 1 0
 -6 In 1955 4 24 2
 -5 - 1957 9 29 2
 -6 - 1958 4 27 2
 -5 - 1969 1 1 0
 -5 u 1971 1 1 0
 -5 - 2006 1 1 0
 -5 u
America/Indiana/Knox
 -5:46:30 - 1883 11 18 18u
 -6 u 1947 1 1 0
 -6 St 1962 4 29 2
 -5 - 1963 10 27 2
 -6 u 1991 10 27 2
 -5 - 2006 4 2 2
 -6 u
America/Indiana/Marengo
 -5:45:23 - 1883 11 18 18u
 -6 u 1951 1 1 0
 -6 Ma 1961 4 30 2
 -5 - 1969 1 1 0
 -5 u 1974 1 6 2
 -6 1 1974 10 27 2
 -5 u 1976 1 1 0
 -5 - 2006 1 1 0
 -5 u
America/Indiana/Petersburg
 -5:49:07 - 1883 11 18 18u
 -6 u 1955 1 1 0
 -6 Pi 1965 4 25 2
 -5 - 1966 10 30 2
 -6 u 1977 10 30 2
 -5 - 2006 4 2 2
 -6 u 2007 11 4 2
 -5 u
America/Indiana/Tell_City
 -5:47:03 - 1883 11 18 18u
 -6 u 1946 1 1 0
 -6 Pe 1964 4 26 2
 -5 - 1967 10 29 2
 -6 u 1969 4 27 2
 -5 u 1971 1 1 0
 -5 - 2006 4 2 2
 -6 u
America/Indiana/Vevay
 -5:40:16 - 1883 11 18 18u
 -6 u 1954 4 25 2
 -5 - 1969 1 1 0
 -5 u 1973 1 1 0
 -5 - 2006 1 1 0
 -5 u
America/Indiana/Vincennes
 -5:50:07 - 1883 11 18 18u
 -6 u 1946 1 1 0
 -6 V 1964 4 26 2
 -5 - 1969 1 1 0
 -5 u 1971 1 1 0
 -5 - 2006 4 2 2
 -6 u 2007 11 4 2
 -5 u
America/Indiana/Winamac
 -5:46:25 - 1883 11 18 18u
 -6 u 1946 1 1 0
 -6 Pu 1961 4 30 2
 -5 - 1969 1 1 0
 -5 u 1971 1 1 0
 -5 - 2006 4 2 2
 -6 u 2007 3 11 2
 -5 u
America/Inuvik
 0 - 1953 1 1 0
 -8 Y 1979 4 29 2
 -7 Y 1980 1 1 0
 -7 C
America/Iqaluit
 0 - 1942 8 1 0
 -5 Y 1999 10 31 2
 -6 C 2000 10 29 2
 -5 C
America/Jamaica
 -5:07:10 - 1890 1 1 0
 -5:07:10 - 1912 2 1 0
 -5 - 1974 1 1 0
 -5 u 1984 1 1 0
 -5 -
America/Juneau
 15:02:19 - 1867 10 19 15:33:32
 -8:57:41 - 1900 8 20 12
 -8 - 1942 1 1 0
 -8 u 1946 1 1 0
 -8 - 1969 1 1 0
 -8 u 1980 4 27 2
 -9 u 1980 10 26 2
 -8 u 1983 10 30 2
 -9 u 1983 11 30 0
 -9 u
America/Kentucky/Louisville
 -5:43:02 - 1883 11 18 18u
 -6 u 1921 1 1 0
 -6 v 1942 1 1 0
 -6 u 1946 1 1 0
 -6 v 1961 7 23 2
 -5 - 1968 1 1 0
 -5 u 1974 1 6 2
 -6 1 1974 10 27 2
 -5 u
America/Kentucky/Monticello
 -5:39:24 - 1883 11 18 18u
 -6 u 1946 1 1 0
 -6 - 1968 1 1 0
 -6 u 2000 10 29 2
 -5 u
America/La_Paz
 -4:32:36 - 1890 1 1 0
 -4:32:36 - 1931 10 15 0
 -4:32:36 1 1932 3 21 0
 -4 -
America/Lima
 -5:08:12 - 1890 1 1 0
 -5:08:36 - 1908 7 28 0
 -5 PE
America/Los_Angeles
 -7:52:58 - 1883 11 18 20u
 -8 u 1946 1 1 0
 -8 CA 1967 1 1 0
 -8 u
America/Maceio
 -2:22:52 - 1914 1 1 0
 -3 B 1990 9 17 0
 -3 - 1995 10 13 0
 -3 B 1996 9 4 0
 -3 - 1999 9 30 0
 -3 B 2000 10 22 0
 -3 - 2001 9 13 0
 -3 B 2002 10 1 0
 -3 -
America/Managua
 -5:45:08 - 1890 1 1 0
 -5:45:12 - 1934 6 23 0
 -6 - 1973 5 1 0
 -5 - 1975 2 16 0
 -6 NI 1992 1 1 4
 -5 - 1992 9 24 0
 -6 - 1993 1 1 0
 -5 - 1997 1 1 0
 -6 NI
America/Manaus
 -4:00:04 - 1914 1 1 0
 -4 B 1988 9 12 0
 -4 - 1993 9 28 0
 -4 B 1994 9 22 0
 -4 -
America/Martinique
 -4:04:20 - 1890 1 1 0
 -4:04:20 - 1911 5 1 0
 -4 - 1980 4 6 0
 -4 1 1980 9 28 0
 -4 -
America/Matamoros
 -6:30 - 1922 1 1 6u
 -6 - 1988 1 1 0
 -6 u 1989 1 1 0
 -6 m 2010 1 1 0
 -6 u
America/Mazatlan
 -7:05:40 - 1922 1 1 7u
 -7 - 1927 6 10 0
 -6 - 1930 11 15 0
 -7 m 1932 4 1 0
 -6 - 1942 4 24 0
 -7 - 1970 1 1 0
 -7 m
America/Menominee
 -5:50:27 - 1885 9 18 12
 -6 u 1946 1 1 0
 -6 Me 1969 4 27 2
 -5 - 1973 4 29 2
 -6 u
America/Merida
 -5:58:28 - 1922 1 1 6u
 -6 - 1981 12 26 2
 -5 - 1982 11 2 2
 -6 m
America/Metlakatla
 15:13:42 - 1867 10 19 15:44:55
 -8:46:18 - 1900 8 20 12
 -8 - 1942 1 1 0
 -8 u 1946 1 1 0
 -8 - 1969 1 1 0
 -8 u 1983 10 30 2
 -8 - 2015 11 1 2
 -9 u 2018 11 4 2
 -8 - 2019 1 20 2
 -9 u
America/Mexico_City
 -6:36:36 - 1922 1 1 7u
 -7 - 1927 6 10 0
 -6 - 1930 11 15 0
 -7 m 1932 4 1 0
 -6 m 2001 9 30 2
 -6 - 2002 2 20 0
 -6 m
America/Miquelon
 -3:44:40 - 1911 6 15 0
 -4 - 1980 5 1 0
 -3 - 1987 1 1 0
 -3 C
America/Moncton
 -4:19:08 - 1883 12 9 0
 -5 - 1902 6 15 0
 -4 C 1933 1 1 0
 -4 o 1942 1 1 0
 -4 C 1946 1 1 0
 -4 o 1973 1 1 0
 -4 C 1993 1 1 0
 -4 o 2007 1 1 0
 -4 C
America/Monterrey
 -6:41:16 - 1922 1 1 6u
 -7 - 1927 6 10 0
 -6 - 1930 11 15 0
 -7 m 1932 4 1 0
 -6 - 1988 1 1 0
 -6 u 1989 1 1 0
 -6 m
America/Montevideo
 -3:44:51 - 1908 6 10 0
 -3:44:51 - 1920 5 1 0
 -4 - 1923 10 1 0
 -3:30 U 1942 12 14 0
 -3 U 1960 1 1 0
 -3 U 1968 1 1 0
 -3 U 1970 1 1 0
 -3 U 1974 1 1 0
 -3 U 1974 3 10 0
 -3 U 1974 12 22 0
 -3 U
America/New_York
 -4:56:02 - 1883 11 18 17u
 -5 u 1920 1 1 0
 -5 NY 1942 1 1 0
 -5 u 1946 1 1 0
 -5 NY 1967 1 1 0
 -5 u
America/Nome
 12:58:22 - 1867 10 19 13:29:35
 -11:01:38 - 1900 8 20 12
 -11 - 1942 1 1 0
 -11 u 1946 1 1 0
 -11 - 1967 4 1 0
 -11 - 1969 1 1 0
 -11 u 1983 10 30 2
 -9 u 1983 11 30 0
 -9 u
America/Noronha
 -2:09:40 - 1914 1 1 0
 -2 B 1990 9 17 0
 -2 - 1999 9 30 0
 -2 B 2000 10 15 0
 -2 - 2001 9 13 0
 -2 B 2002 10 1 0
 -2 -
America/North_Dakota/Beulah
 -6:47:07 - 1883 11 18 19u
 -7 u 2010 11 7 2
 -6 u
America/North_Dakota/Center
 -6:45:12 - 1883 11 18 19u
 -7 u 1992 10 25 2
 -6 u
America/North_Dakota/New_Salem
 -6:45:39 - 1883 11 18 19u
 -7 u 2003 10 26 2
 -6 u
America/Nuuk
 -3:26:56 - 1916 7 28 0
 -3 - 1980 4 6 2
 -3 E 2023 3 26 1u
 -2 - 2023 10 29 1u
 -2 E
America/Ojinaga
 -6:57:40 - 1922 1 1 7u
 -7 - 1927 6 10 0
 -6 - 1930 11 15 0
 -7 m 1932 4 1 0
 -6 - 1996 1 1 0
 -6 m 1998 1 1 0
 -6 - 1998 4 5 3
 -7 m 2010 1 1 0
 -7 u 2022 10 30 2
 -6 - 2022 11 30 0
 -6 u
America/Panama
 -5:18:08 - 1890 1 1 0
 -5:19:36 - 1908 4 22 0
 -5 -
America/Paramaribo
 -3:40:40 - 1911 1 1 0
 -3:40:52 - 1935 1 1 0
 -3:40:36 - 1945 10 1 0
 -3:30 - 1984 10 1 0
 -3 -
America/Phoenix
 -7:28:18 - 1883 11 18 19u
 -7 u 1944 1 1 0:01
 -7 - 1944 4 1 0:01
 -7 u 1944 10 1 0:01
 -7 - 1967 1 1 0
 -7 u 1968 3 21 0
 -7 -
America/Port-au-Prince
 -4:49:20 - 1890 1 1 0
 -4:49 - 1917 1 24 12
 -5 HT
America/Porto_Velho
 -4:15:36 - 1914 1 1 0
 -4 B 1988 9 12 0
 -4 -
America/Puerto_Rico
 -4:24:25 - 1899 3 28 12
 -4 - 1942 5 3 0
 -4 u 1946 1 1 0
 -4 -
America/Punta_Arenas
 -4:43:40 - 1890 1 1 0
 -4:42:45 - 1910 1 10 0
 -5 - 1916 7 1 0
 -4:42:45 - 1918 9 10 0
 -4 - 1919 7 1 0
 -4:42:45 - 1927 9 1 0
 -5 x 1932 9 1 0
 -4 - 1942 6 1 0
 -5 - 1942 8 1 0
 -4 - 1946 8 28 24
 -5 1 1947 3 31 24
 -5 - 1947 5 21 23
 -4 x 2016 12 4 0
 -3 -
America/Rankin_Inlet
 0 - 1957 1 1 0
 -6 Y 2000 10 29 2
 -5 - 2001 4 1 3
 -6 C
America/Recife
 -2:19:36 - 1914 1 1 0
 -3 B 1990 9 17 0
 -3 - 1999 9 30 0
 -3 B 2000 10 15 0
 -3 - 2001 9 13 0
 -3 B 2002 10 1 0
 -3 -
America/Regina
 -6:58:36 - 1905 9 1 0
 -7 r 1960 4 24 2
 -6 -
America/Resolute
 0 - 1947 8 31 0
 -6 Y 2000 10 29 2
 -5 - 2001 4 1 3
 -6 C 2006 10 29 2
 -5 - 2007 3 11 3
 -6 C
America/Rio_Branco
 -4:31:12 - 1914 1 1 0
 -5 B 1988 9 12 0
 -5 - 2008 6 24 0
 -4 - 2013 11 10 0
 -5 -
America/Santarem
 -3:38:48 - 1914 1 1 0
 -4 B 1988 9 12 0
 -4 - 2008 6 24 0
 -3 -
America/Santiago
 -4:42:45 - 1890 1 1 0
 -4:42:45 - 1910 1 10 0
 -5 - 1916 7 1 0
 -4:42:45 - 1918 9 10 0
 -4 - 1919 7 1 0
 -4:42:45 - 1927 9 1 0
 -5 x 1932 9 1 0
 -4 - 1942 6 1 0
 -5 - 1942 8 1 0
 -4 - 1946 7 14 24
 -4 1 1946 8 28 24
 -5 1 1947 3 31 24
 -5 - 1947 5 21 23
 -4 x
America/Santo_Domingo
 -4:39:36 - 1890 1 1 0
 -4:40 - 1933 4 1 12
 -5 DO 1974 10 27 0
 -4 - 2000 10 29 2
 -5 u 2000 12 3 1
 -4 -
America/Sao_Paulo
 -3:06:28 - 1914 1 1 0
 -3 B 1963 10 23 0
 -3 1 1964 1 1 0
 -3 B
America/Scoresbysund
 -1:27:52 - 1916 7 28 0
 -2 - 1980 4 6 2
 -2 c 1981 3 29 0
 -1 E 2024 3 31 0
 -2 E
America/Sitka
 14:58:47 - 1867 10 19 15:30
 -9:01:13 - 1900 8 20 12
 -8 - 1942 1 1 0
 -8 u 1946 1 1 0
 -8 - 1969 1 1 0
 -8 u 1983 10 30 2
 -9 u 1983 11 30 0
 -9 u
America/St_Johns
 -3:30:52 - 1884 1 1 0
 -3:30:52 j 1918 1 1 0
 -3:30:52 C 1919 1 1 0
 -3:30:52 j 1935 3 30 0
 -3:30 j 1942 5 11 0
 -3:30 C 1946 1 1 0
 -3:30 j 2011 11 1 0
 -3:30 C
America/Swift_Current
 -7:11:20 - 1905 9 1 0
 -7 C 1946 4 28 2
 -7 r 1950 1 1 0
 -7 Sw 1972 4 30 2
 -6 -
America/Tegucigalpa
 -5:48:52 - 1921 4 1 0
 -6 HN
America/Thule
 -4:35:08 - 1916 7 28 0
 -4 Th
America/Tijuana
 -7:48:04 - 1922 1 1 7u
 -7 - 1924 1 1 0
 -8 - 1927 6 10 0
 -7 - 1930 11 15 0
 -8 - 1931 4 1 0
 -8 1 1931 9 30 0
 -8 - 1942 4 24 0
 -8 1 1945 8 14 23u
 -8 1 1945 11 15 0
 -8 - 1948 4 5 0
 -8 1 1949 1 14 0
 -8 - 1950 5 1 0
 -8 1 1950 9 24 0
 -8 - 1951 4 29 2
 -8 1 1951 9 30 2
 -8 - 1952 4 27 2
 -8 1 1952 9 28 2
 -8 - 1954 1 1 0
 -8 CA 1961 1 1 0
 -8 - 1976 1 1 0
 -8 u 1996 1 1 0
 -8 m 2001 1 1 0
 -8 u 2002 2 20 0
 -8 m 2010 1 1 0
 -8 u
America/Toronto
 -5:17:32 - 1895 1 1 0
 -5 C 1919 1 1 0
 -5 t 1942 2 9 2s
 -5 C 1946 1 1 0
 -5 t 1974 1 1 0
 -5 C
America/Vancouver
 -8:12:28 - 1884 1 1 0
 -8 Va 1987 1 1 0
 -8 C
America/Whitehorse
 -9:00:12 - 1900 8 20 0
 -9 Y 1965 1 1 0
 -9 Yu 1966 2 27 0
 -8 - 1980 1 1 0
 -8 C 2020 11 1 0
 -7 -
America/Winnipeg
 -6:28:36 - 1887 7 16 0
 -6 W 2006 1 1 0
 -6 C
America/Yakutat
 14:41:05 - 1867 10 19 15:12:18
 -9:18:55 - 1900 8 20 12
 -9 - 1942 1 1 0
 -9 u 1946 1 1 0
 -9 - 1969 1 1 0
 -9 u 1983 11 30 0
 -9 u
Antarctica/Casey
 0 - 1969 1 1 0
 8 - 2009 10 18 2
 11 - 2010 3 5 2
 8 - 2011 10 28 2
 11 - 2012 2 21 17u
 8 - 2016 10 22 0
 11 - 2018 3 11 4
 8 - 2018 10 7 4
 11 - 2019 3 17 3
 8 - 2019 10 4 3
 11 - 2020 3 8 3
 8 - 2020 10 4 0:01
 11 - 2021 3 14 0
 8 - 2021 10 3 0:01
 11 - 2022 3 13 0
 8 - 2022 10 2 0:01
 11 - 2023 3 9 3
 8 -
Antarctica/Davis
 0 - 1957 1 13 0
 7 - 1964 11 1 0
 0 - 1969 2 1 0
 7 - 2009 10 18 2
 5 - 2010 3 10 20u
 7 - 2011 10 28 2
 5 - 2012 2 21 20u
 7 -
Antarctica/Macquarie
 0 - 1899 11 1 0
 10 - 1916 10 1 2
 10 1 1917 2 1 0
 10 AU 1919 4 1 0s
 0 - 1948 3 25 0
 10 AU 1967 1 1 0
 10 AT 2010 1 1 0
 10 1 2011 1 1 0
 10 AT
Antarctica/Mawson
 0 - 1954 2 13 0
 6 - 2009 10 18 2
 5 -
Antarctica/Palmer
 0 - 1965 1 1 0
 -4 A 1969 10 5 0
 -3 A 1982 5 1 0
 -4 x 2016 12 4 0
 -3 -
Antarctica/Rothera
 0 - 1976 12 1 0
 -3 -
Antarctica/Troll
 0 - 2005 2 12 0
 0 Tr
Antarctica/Vostok
 0 - 1957 12 16 0
 7 - 1994 2 1 0
 0 - 1994 11 1 0
 7 - 2023 12 18 2
 5 -
Asia/Almaty
 5:07:48 - 1924 5 2 0
 5 - 1930 6 21 0
 6 R 1991 3 31 2s
 5 R 1992 1 19 2s
 6 R 2004 10 31 2s
 6 - 2024 3 1 0
 5 -
Asia/Amman
 2:23:44 - 1931 1 1 0
 2 J 2022 10 28 0s
 3 -
Asia/Anadyr
 11:49:56 - 1924 5 2 0
 12 - 1930 6 21 0
 13 R 1982 4 1 0s
 12 R 1991 3 31 2s
 11 R 1992 1 19 2s
 12 R 2010 3 28 2s
 11 R 2011 3 27 2s
 12 -
Asia/Aqtau
 3:21:04 - 1924 5 2 0
 4 - 1930 6 21 0
 5 - 1981 10 1 0
 6 - 1982 4 1 0
 5 R 1991 3 31 2s
 4 R 1992 1 19 2s
 5 R 1994 9 25 2s
 4 R 2004 10 31 2s
 5 -
Asia/Aqtobe
 3:48:40 - 1924 5 2 0
 4 - 1930 6 21 0
 5 - 1981 4 1 0
 5 1 1981 10 1 0
 6 - 1982 4 1 0
 5 R 1991 3 31 2s
 4 R 1992 1 19 2s
 5 R 2004 10 31 2s
 5 -
Asia/Ashgabat
 3:53:32 - 1924 5 2 0
 4 - 1930 6 21 0
 5 R 1991 3 31 2
 4 R 1992 1 19 2
 5 -
Asia/Atyrau
 3:27:44 - 1924 5 2 0
 3 - 1930 6 21 0
 5 - 1981 10 1 0
 6 - 1982 4 1 0
 5 R 1991 3 31 2s
 4 R 1992 1 19 2s
 5 R 1999 3 28 2s
 4 R 2004 10 31 2s
 5 -
Asia/Baghdad
 2:57:40 - 1890 1 1 0
 2:57:36 - 1918 1 1 0
 3 - 1982 5 1 0
 3 IQ
Asia/Baku
 3:19:24 - 1924 5 2 0
 3 - 1957 3 1 0
 4 R 1991 3 31 2s
 3 R 1992 9 27 2s
 4 - 1996 1 1 0
 4 E 1997 1 1 0
 4 AZ
Asia/Bangkok
 6:42:04 - 1880 1 1 0
 6:42:04 - 1920 4 1 0
 7 -
Asia/Barnaul
 5:35 - 1919 12 10 0
 6 - 1930 6 21 0
 7 R 1991 3 31 2s
 6 R 1992 1 19 2s
 7 R 1995 5 28 0
 6 R 2011 3 27 2s
 7 - 2014 10 26 2s
 6 - 2016 3 27 2s
 7 -
Asia/Beirut
 2:22 - 1880 1 1 0
 2 l
Asia/Bishkek
 4:58:24 - 1924 5 2 0
 5 - 1930 6 21 0
 6 R 1991 3 31 2s
 5 R 1991 8 31 2
 5 KG 2005 8 12 0
 6 -
Asia/Chita
 7:33:52 - 1919 12 15 0
 8 - 1930 6 21 0
 9 R 1991 3 31 2s
 8 R 1992 1 19 2s
 9 R 2011 3 27 2s
 10 - 2014 10 26 2s
 8 - 2016 3 27 2
 9 -
Asia/Colombo
 5:19:24 - 1880 1 1 0
 5:19:32 - 1906 1 1 0
 5:30 - 1942 1 5 0
 5:30 0:30 1942 9 1 0
 5:30 1 1945 10 16 2
 5:30 - 1996 5 25 0
 6:30 - 1996 10 26 0:30
 6 - 2006 4 15 0:30
 5:30 -
Asia/Damascus
 2:25:12 - 1920 1 1 0
 2 S 2022 10 28 0
 3 -
Asia/Dhaka
 6:01:40 - 1890 1 1 0
 5:53:20 - 1941 10 1 0
 6:30 - 1942 5 15 0
 5:30 - 1942 9 1 0
 6:30 - 1951 9 30 0
 6 - 2009 1 1 0
 6 BD
Asia/Dili
 8:22:20 - 1911 12 31 16u
 8 - 1942 2 21 23
 9 - 1976 5 3 0
 8 - 2000 9 17 0
 9 -
Asia/Dubai
 3:41:12 - 1920 1 1 0
 4 -
Asia/Dushanbe
 4:35:12 - 1924 5 2 0
 5 - 1930 6 21 0
 6 R 1991 3 31 2s
 5 1 1991 9 9 2s
 5 -
Asia/Famagusta
 2:15:48 - 1921 11 14 0
 2 CY 1998 9 1 0
 2 E 2016 9 8 0
 3 - 2017 10 29 1u
 2 E
Asia/Gaza
 2:17:52 - 1900 10 1 0
 2 Z 1948 5 15 0
 2 K 1967 6 5 0
 2 Z 1996 1 1 0
 2 J 1999 1 1 0
 2 P 2008 8 29 0
 2 - 2008 9 1 0
 2 P 2010 1 1 0
 2 - 2010 3 27 0:01
 2 P 2011 8 1 0
 2 - 2012 1 1 0
 2 P
Asia/Hebron
 2:20:23 - 1900 10 1 0
 2 Z 1948 5 15 0
 2 K 1967 6 5 0
 2 Z 1996 1 1 0
 2 J 1999 1 1 0
 2 P
Asia/Ho_Chi_Minh
 7:06:30 - 1906 7 1 0
 7:06:30 - 1911 5 1 0
 7 - 1942 12 31 23
 8 - 1945 3 14 23
 9 - 1945 9 1 24
 7 - 1947 4 1 0
 8 - 1955 7 1 1
 7 - 1959 12 31 23
 8 - 1975 6 13 0
 7 -
Asia/Hong_Kong
 7:36:42 - 1904 10 29 17u
 8 - 1941 6 15 3
 8 1 1941 10 1 4
 8 0:30 1941 12 25 0
 9 - 1945 11 18 2
 8 HK
Asia/Hovd
 6:06:36 - 1905 8 1 0
 6 - 1978 1 1 0
 7 X
Asia/Irkutsk
 6:57:05 - 1880 1 1 0
 6:57:05 - 1920 1 25 0
 7 - 1930 6 21 0
 8 R 1991 3 31 2s
 7 R 1992 1 19 2s
 8 R 2011 3 27 2s
 9 - 2014 10 26 2s
 8 -
Asia/Jakarta
 7:07:12 - 1867 8 10 0
 7:07:12 - 1923 12 31 16:40u
 7:20 - 1932 11 1 0
 7:30 - 1942 3 23 0
 9 - 1945 9 23 0
 7:30 - 1948 5 1 0
 8 - 1950 5 1 0
 7:30 - 1964 1 1 0
 7 -
Asia/Jayapura
 9:22:48 - 1932 11 1 0
 9 - 1944 9 1 0
 9:30 - 1964 1 1 0
 9 -
Asia/Jerusalem
 2:20:54 - 1880 1 1 0
 2:20:40 - 1918 1 1 0
 2 Z
Asia/Kabul
 4:36:48 - 1890 1 1 0
 4 - 1945 1 1 0
 4:30 -
Asia/Kamchatka
 10:34:36 - 1922 11 10 0
 11 - 1930 6 21 0
 12 R 1991 3 31 2s
 11 R 1992 1 19 2s
 12 R 2010 3 28 2s
 11 R 2011 3 27 2s
 12 -
Asia/Karachi
 4:28:12 - 1907 1 1 0
 5:30 - 1942 9 1 0
 5:30 1 1945 10 15 0
 5:30 - 1951 9 30 0
 5 - 1971 3 26 0
 5 PK
Asia/Kathmandu
 5:41:16 - 1920 1 1 0
 5:30 - 1986 1 1 0
 5:45 -
Asia/Khandyga
 9:02:13 - 1919 12 15 0
 8 - 1930 6 21 0
 9 R 1991 3 31 2s
 8 R 1992 1 19 2s
 9 R 2004 1 1 0
 10 R 2011 3 27 2s
 11 - 2011 9 13 0s
 10 - 2014 10 26 2s
 9 -
Asia/Kolkata
 5:53:28 - 1854 6 28 0
 5:53:20 - 1870 1 1 0
 5:21:10 - 1906 1 1 0
 5:30 - 1941 10 1 0
 5:30 1 1942 5 15 0
 5:30 - 1942 9 1 0
 5:30 1 1945 10 15 0
 5:30 -
Asia/Krasnoyarsk
 6:11:26 - 1920 1 6 0
 6 - 1930 6 21 0
 7 R 1991 3 31 2s
 6 R 1992 1 19 2s
 7 R 2011 3 27 2s
 8 - 2014 10 26 2s
 7 -
Asia/Kuching
 7:21:20 - 1926 3 1 0
 7:30 - 1933 1 1 0
 8 NB 1942 2 16 0
 9 - 1945 9 12 0
 8 -
Asia/Macau
 7:34:10 - 1904 10 30 0
 8 - 1941 12 21 23
 9 _ 1945 9 30 24
 8 _
Asia/Magadan
 10:03:12 - 1924 5 2 0
 10 - 1930 6 21 0
 11 R 1991 3 31 2s
 10 R 1992 1 19 2s
 11 R 2011 3 27 2s
 12 - 2014 10 26 2s
 10 - 2016 4 24 2s
 11 -
Asia/Makassar
 7:57:36 - 1920 1 1 0
 7:57:36 - 1932 11 1 0
 8 - 1942 2 9 0
 9 - 1945 9 23 0
 8 -
Asia/Manila
 -15:56:08 - 1844 12 31 0
 8:03:52 - 1899 9 6 4u
 8 PH 1942 2 11 24
 9 - 1945 3 4 0
 8 PH
Asia/Nicosia
 2:13:28 - 1921 11 14 0
 2 CY 1998 9 1 0
 2 E
Asia/Novokuznetsk
 5:48:48 - 1924 5 1 0
 6 - 1930 6 21 0
 7 R 1991 3 31 2s
 6 R 1992 1 19 2s
 7 R 2010 3 28 2s
 6 R 2011 3 27 2s
 7 -
Asia/Novosibirsk
 5:31:40 - 1919 12 14 6
 6 - 1930 6 21 0
 7 R 1991 3 31 2s
 6 R 1992 1 19 2s
 7 R 1993 5 23 0
 6 R 2011 3 27 2s
 7 - 2014 10 26 2s
 6 - 2016 7 24 2s
 7 -
Asia/Omsk
 4:53:30 - 1919 11 14 0
 5 - 1930 6 21 0
 6 R 1991 3 31 2s
 5 R 1992 1 19 2s
 6 R 2011 3 27 2s
 7 - 2014 10 26 2s
 6 -
Asia/Oral
 3:25:24 - 1924 5 2 0
 3 - 1930 6 21 0
 5 - 1981 4 1 0
 5 1 1981 10 1 0
 6 - 1982 4 1 0
 5 R 1989 3 26 2s
 4 R 1992 1 19 2s
 5 R 1992 3 29 2s
 4 R 2004 10 31 2s
 5 -
Asia/Pontianak
 7:17:20 - 1908 5 1 0
 7:17:20 - 1932 11 1 0
 7:30 - 1942 1 29 0
 9 - 1945 9 23 0
 7:30 - 1948 5 1 0
 8 - 1950 5 1 0
 7:30 - 1964 1 1 0
 8 - 1988 1 1 0
 7 -
Asia/Pyongyang
 8:23 - 1908 4 1 0
 8:30 - 1912 1 1 0
 9 - 1945 8 24 0
 9 - 2015 8 15 0
 8:30 - 2018 5 4 23:30
 9 -
Asia/Qatar
 3:26:08 - 1920 1 1 0
 4 - 1972 6 1 0
 3 -
Asia/Qostanay
 4:14:28 - 1924 5 2 0
 4 - 1930 6 21 0
 5 - 1981 4 1 0
 5 1 1981 10 1 0
 6 - 1982 4 1 0
 5 R 1991 3 31 2s
 4 R 1992 1 19 2s
 5 R 2004 10 31 2s
 6 - 2024 3 1 0
 5 -
Asia/Qyzylorda
 4:21:52 - 1924 5 2 0
 4 - 1930 6 21 0
 5 - 1981 4 1 0
 5 1 1981 10 1 0
 6 - 1982 4 1 0
 5 R 1991 3 31 2s
 4 R 1991 9 29 2s
 5 R 1992 1 19 2s
 6 R 1992 3 29 2s
 5 R 2004 10 31 2s
 6 - 2018 12 21 0
 5 -
Asia/Riyadh
 3:06:52 - 1947 3 14 0
 3 -
Asia/Sakhalin
 9:30:48 - 1905 8 23 0
 9 - 1945 8 25 0
 11 R 1991 3 31 2s
 10 R 1992 1 19 2s
 11 R 1997 3 30 2s
 10 R 2011 3 27 2s
 11 - 2014 10 26 2s
 10 - 2016 3 27 2s
 11 -
Asia/Samarkand
 4:27:53 - 1924 5 2 0
 4 - 1930 6 21 0
 5 - 1981 4 1 0
 5 1 1981 10 1 0
 6 - 1982 4 1 0
 5 R 1992 1 1 0
 5 -
Asia/Seoul
 8:27:52 - 1908 4 1 0
 8:30 - 1912 1 1 0
 9 - 1945 9 8 0
 9 KR 1954 3 21 0
 8:30 KR 1961 8 10 0
 9 KR
Asia/Shanghai
 8:05:43 - 1901 1 1 0
 8 Sh 1949 5 28 0
 8 CN
Asia/Singapore
 6:55:25 - 1901 1 1 0
 6:55:25 - 1905 6 1 0
 7 - 1933 1 1 0
 7 0:20 1936 1 1 0
 7:20 - 1941 9 1 0
 7:30 - 1942 2 16 0
 9 - 1945 9 12 0
 7:30 - 1981 12 31 16u
 8 -
Asia/Srednekolymsk
 10:14:52 - 1924 5 2 0
 10 - 1930 6 21 0
 11 R 1991 3 31 2s
 10 R 1992 1 19 2s
 11 R 2011 3 27 2s
 12 - 2014 10 26 2s
 11 -
Asia/Taipei
 8:06 - 1896 1 1 0
 8 - 1937 10 1 0
 9 - 1945 9 21 1
 8 f
Asia/Tashkent
 4:37:11 - 1924 5 2 0
 5 - 1930 6 21 0
 6 R 1991 3 31 2
 5 R 1992 1 1 0
 5 -
Asia/Tbilisi
 2:59:11 - 1880 1 1 0
 2:59:11 - 1924 5 2 0
 3 - 1957 3 1 0
 4 R 1991 3 31 2s
 3 R 1992 1 1 0
 3 e 1994 9 25 0
 4 e 1996 10 27 0
 4 1 1997 3 30 0
 4 e 2004 6 27 0
 3 R 2005 3 27 2
 4 -
Asia/Tehran
 3:25:44 - 1916 1 1 0
 3:25:44 - 1935 6 13 0
 3:30 i 1977 10 20 24
 4 i 1978 11 10 24
 3:30 i
Asia/Thimphu
 5:58:36 - 1947 8 15 0
 5:30 - 1987 10 1 0
 6 -
Asia/Tokyo
 9:18:59 - 1887 12 31 15u
 9 JP
Asia/Tomsk
 5:39:51 - 1919 12 22 0
 6 - 1930 6 21 0
 7 R 1991 3 31 2s
 6 R 1992 1 19 2s
 7 R 2002 5 1 3
 6 R 2011 3 27 2s
 7 - 2014 10 26 2s
 6 - 2016 5 29 2s
 7 -
Asia/Ulaanbaatar
 7:07:32 - 1905 8 1 0
 7 - 1978 1 1 0
 8 X
Asia/Urumqi
 5:50:20 - 1928 1 1 0
 6 -
Asia/Ust-Nera
 9:32:54 - 1919 12 15 0
 8 - 1930 6 21 0
 9 R 1981 4 1 0
 11 R 1991 3 31 2s
 10 R 1992 1 19 2s
 11 R 2011 3 27 2s
 12 - 2011 9 13 0s
 11 - 2014 10 26 2s
 10 -
Asia/Vladivostok
 8:47:31 - 1922 11 15 0
 9 - 1930 6 21 0
 10 R 1991 3 31 2s
 9 R 1992 1 19 2s
 10 R 2011 3 27 2s
 11 - 2014 10 26 2s
 10 -
Asia/Yakutsk
 8:38:58 - 1919 12 15 0
 8 - 1930 6 21 0
 9 R 1991 3 31 2s
 8 R 1992 1 19 2s
 9 R 2011 3 27 2s
 10 - 2014 10 26 2s
 9 -
Asia/Yangon
 6:24:47 - 1880 1 1 0
 6:24:47 - 1920 1 1 0
 6:30 - 1942 5 1 0
 9 - 1945 5 3 0
 6:30 -
Asia/Yekaterinburg
 4:02:33 - 1916 7 3 0
 3:45:05 - 1919 7 15 4
 4 - 1930 6 21 0
 5 R 1991 3 31 2s
 4 R 1992 1 19 2s
 5 R 2011 3 27 2s
 6 - 2014 10 26 2s
 5 -
Asia/Yerevan
 2:58 - 1924 5 2 0
 3 - 1957 3 1 0
 4 R 1991 3 31 2s
 3 R 1995 9 24 2s
 4 - 1997 1 1 0
 4 R 2011 1 1 0
 4 AM
Atlantic/Azores
 -1:42:40 - 1884 1 1 0
 -1:54:32 - 1912 1 1 2u
 -2 p 1942 4 25 22s
 -2 p 1942 8 15 22s
 -2 p 1943 4 17 22s
 -2 p 1943 8 28 22s
 -2 p 1944 4 22 22s
 -2 p 1944 8 26 22s
 -2 p 1945 4 21 22s
 -2 p 1945 8 25 22s
 -2 p 1966 10 2 2s
 -1 - 1982 3 28 0s
 -1 p 1986 1 1 0
 -1 E 1992 12 27 1s
 0 E 1993 6 17 1u
 -1 E
Atlantic/Bermuda
 -4:19:18 - 1890 1 1 0
 -4:19:18 Be 1930 1 1 2
 -4 Be 1974 4 28 2
 -4 C 1976 1 1 0
 -4 u
Atlantic/Canary
 -1:01:36 - 1922 3 1 0
 -1 - 1946 9 30 1
 0 - 1980 4 6 0s
 0 1 1980 9 28 1u
 0 E
Atlantic/Cape_Verde
 -1:34:04 - 1912 1 1 2u
 -2 - 1942 9 1 0
 -2 1 1945 10 15 0
 -2 - 1975 11 25 2
 -1 -
Atlantic/Faroe
 -0:27:04 - 1908 1 11 0
 0 - 1981 1 1 0
 0 E
Atlantic/Madeira
 -1:07:36 - 1884 1 1 0
 -1:07:36 - 1912 1 1 1u
 -1 p 1942 4 25 22s
 -1 p 1942 8 15 22s
 -1 p 1943 4 17 22s
 -1 p 1943 8 28 22s
 -1 p 1944 4 22 22s
 -1 p 1944 8 26 22s
 -1 p 1945 4 21 22s
 -1 p 1945 8 25 22s
 -1 p 1966 10 2 2s
 0 - 1982 4 4 0
 0 p 1986 7 31 0
 0 E
Atlantic/South_Georgia
 -2:26:08 - 1890 1 1 0
 -2 -
Atlantic/Stanley
 -3:51:24 - 1890 1 1 0
 -3:51:24 - 1912 3 12 0
 -4 FK 1983 5 1 0
 -3 FK 1985 9 15 0
 -4 FK 2010 9 5 2
 -3 -
Australia/Adelaide
 9:14:20 - 1895 2 1 0
 9 - 1899 5 1 0
 9:30 AU 1971 1 1 0
 9:30 AS
Australia/Brisbane
 10:12:08 - 1895 1 1 0
 10 AU 1971 1 1 0
 10 AQ
Australia/Broken_Hill
 9:25:48 - 1895 2 1 0
 10 - 1896 8 23 0
 9 - 1899 5 1 0
 9:30 AU 1971 1 1 0
 9:30 AN 2000 1 1 0
 9:30 AS
Australia/Darwin
 8:43:20 - 1895 2 1 0
 9 - 1899 5 1 0
 9:30 AU
Australia/Eucla
 8:35:28 - 1895 12 1 0
 8:45 AU 1943 7 1 0
 8:45 AW
Australia/Hobart
 9:49:16 - 1895 9 1 0
 10 AT 1919 10 24 0
 10 AU 1967 1 1 0
 10 AT
Australia/Lindeman
 9:55:56 - 1895 1 1 0
 10 AU 1971 1 1 0
 10 AQ 1992 7 1 0
 10 Ho
Australia/Lord_Howe
 10:36:20 - 1895 2 1 0
 10 - 1981 3 1 0
 10:30 LH 1985 7 1 0
 10:30 LH
Australia/Melbourne
 9:39:52 - 1895 2 1 0
 10 AU 1971 1 1 0
 10 AV
Australia/Perth
 7:43:24 - 1895 12 1 0
 8 AU 1943 7 1 0
 8 AW
Australia/Sydney
 10:04:52 - 1895 2 1 0
 10 AU 1971 1 1 0
 10 AN
Etc/GMT
 0 -
Etc/GMT+1
 -1 -
Etc/GMT+10
 -10 -
Etc/GMT+11
 -11 -
Etc/GMT+12
 -12 -
Etc/GMT+2
 -2 -
Etc/GMT+3
 -3 -
Etc/GMT+4
 -4 -
Etc/GMT+5
 -5 -
Etc/GMT+6
 -6 -
Etc/GMT+7
 -7 -
Etc/GMT+8
 -8 -
Etc/GMT+9
 -9 -
Etc/GMT-1
 1 -
Etc/GMT-10
 10 -
Etc/GMT-11
 11 -
Etc/GMT-12
 12 -
Etc/GMT-13
 13 -
Etc/GMT-14
 14 -
Etc/GMT-2
 2 -
Etc/GMT-3
 3 -
Etc/GMT-4
 4 -
Etc/GMT-5
 5 -
Etc/GMT-6
 6 -
Etc/GMT-7
 7 -
Etc/GMT-8
 8 -
Etc/GMT-9
 9 -
Etc/UTC
 0 -
Europe/Andorra
 0:06:04 - 1901 1 1 0
 0 - 1946 9 30 0
 1 - 1985 3 31 2
 1 E
Europe/Astrakhan
 3:12:12 - 1924 5 1 0
 3 - 1930 6 21 0
 4 R 1989 3 26 2s
 3 R 1991 3 31 2s
 4 - 1992 3 29 2s
 3 R 2011 3 27 2s
 4 - 2014 10 26 2s
 3 - 2016 3 27 2s
 4 -
Europe/Athens
 1:34:52 - 1895 9 14 0
 1:34:52 - 1916 7 28 0:01
 2 g 1941 4 30 0
 1 g 1944 4 4 0
 2 g 1981 1 1 0
 2 E
Europe/Belgrade
 1:22 - 1884 1 1 0
 1 - 1941 4 18 23
 1 c 1945 1 1 0
 1 - 1945 5 8 2s
 1 1 1945 9 16 2s
 1 - 1982 11 27 0
 1 E
Europe/Berlin
 0:53:28 - 1893 4 1 0
 1 c 1945 5 24 2
 1 So 1946 1 1 0
 1 DE 1980 1 1 0
 1 E
Europe/Brussels
 0:17:30 - 1880 1 1 0
 0:17:30 - 1892 5 1 0:17:30
 0 - 1914 11 8 0
 1 - 1916 5 1 0
 1 c 1918 11 11 11u
 0 b 1940 5 20 2s
 1 c 1944 9 3 0
 1 b 1977 1 1 0
 1 E
Europe/Bucharest
 1:44:24 - 1891 10 1 0
 1:44:24 - 1931 7 24 0
 2 z 1981 3 29 2s
 2 c 1991 1 1 0
 2 z 1994 1 1 0
 2 e 1997 1 1 0
 2 E
Europe/Budapest
 1:16:20 - 1890 11 1 0
 1 c 1918 1 1 0
 1 h 1941 4 7 23
 1 c 1945 1 1 0
 1 h 1984 1 1 0
 1 E
Europe/Chisinau
 1:55:20 - 1880 1 1 0
 1:55 - 1918 2 15 0
 1:44:24 - 1931 7 24 0
 2 z 1940 8 15 0
 2 1 1941 7 17 0
 1 c 1944 8 24 0
 3 R 1990 5 6 2
 2 R 1992 1 1 0
 2 e 1997 1 1 0
 2 MD
Europe/Dublin
 -0:25:21 - 1880 8 2 0
 -0:25:21 - 1916 5 21 2s
 -0:25:21 1 1916 10 1 2s
 0 G 1921 12 6 0
 0 G 1940 2 25 2s
 0 1 1946 10 6 2s
 0 - 1947 3 16 2s
 0 1 1947 11 2 2s
 0 - 1948 4 18 2s
 0 G 1968 10 27 0
 1 - 1971 10 31 2u
 0 G 1996 1 1 0
 0 E
Europe/Gibraltar
 -0:21:24 - 1880 8 2 0
 0 G 1957 4 14 2
 1 - 1982 1 1 0
 1 E
Europe/Helsinki
 1:39:49 - 1878 5 31 0
 1:39:49 - 1921 5 1 0
 2 FI 1983 1 1 0
 2 E
Europe/Istanbul
 1:55:52 - 1880 1 1 0
 1:56:56 - 1910 10 1 0
 2 T 1978 6 29 0
 3 T 1984 11 1 2
 2 T 2007 1 1 0
 2 E 2011 3 27 1u
 2 - 2011 3 28 1u
 2 E 2014 3 30 1u
 2 - 2014 3 31 1u
 2 E 2015 10 25 1u
 2 1 2015 11 8 1u
 2 E 2016 9 7 0
 3 -
Europe/Kaliningrad
 1:22 - 1893 4 1 0
 1 c 1945 4 10 0
 2 O 1946 4 7 0
 3 R 1989 3 26 2s
 2 R 2011 3 27 2s
 3 - 2014 10 26 2s
 2 -
Europe/Kirov
 3:18:48 - 1919 7 1 0u
 3 - 1930 6 21 0
 4 R 1989 3 26 2s
 3 R 1991 3 31 2s
 4 - 1992 3 29 2s
 3 R 2011 3 27 2s
 4 - 2014 10 26 2s
 3 -
Europe/Kyiv
 2:02:04 - 1880 1 1 0
 2:02:04 - 1924 5 2 0
 2 - 1930 6 21 0
 3 - 1941 9 20 0
 1 c 1943 11 6 0
 3 R 1990 7 1 2
 2 1 1991 9 29 3
 2 c 1996 5 13 0
 2 E
Europe/Lisbon
 -0:36:45 - 1884 1 1 0
 -0:36:45 - 1912 1 1 0u
 0 p 1966 10 2 2s
 1 - 1976 9 26 1
 0 p 1986 1 1 0
 0 E 1992 9 27 1u
 1 E 1996 3 31 1u
 0 E
Europe/London
 -0:01:15 - 1847 12 1 0
 0 G 1968 10 27 0
 1 - 1971 10 31 2u
 0 G 1996 1 1 0
 0 E
Europe/Madrid
 -0:14:44 - 1901 1 1 0u
 0 s 1940 3 16 23
 1 s 1979 1 1 0
 1 E
Europe/Malta
 0:58:04 - 1893 11 2 0
 1 I 1973 3 31 0
 1 MT 1981 1 1 0
 1 E
Europe/Minsk
 1:50:16 - 1880 1 1 0
 1:50 - 1924 5 2 0
 2 - 1930 6 21 0
 3 - 1941 6 28 0
 1 c 1944 7 3 0
 3 R 1990 1 1 0
 3 - 1991 3 31 2s
 2 R 2011 3 27 2s
 3 -
Europe/Moscow
 2:30:17 - 1880 1 1 0
 2:30:17 - 1916 7 3 0
 2:31:19 R 1919 7 1 0u
 3 R 1921 10 1 0
 3 R 1922 10 1 0
 2 - 1930 6 21 0
 3 R 1991 3 31 2s
 2 R 1992 1 19 2s
 3 R 2011 3 27 2s
 4 - 2014 10 26 2s
 3 -
Europe/Paris
 0:09:21 - 1891 3 16 0
 0:09:21 - 1911 3 11 0
 0 F 1940 6 14 23
 1 c 1944 8 25 0
 0 F 1945 9 16 3
 1 F 1977 1 1 0
 1 E
Europe/Prague
 0:57:44 - 1850 1 1 0
 0:57:44 - 1891 10 1 0
 1 c 1945 5 9 0
 1 CZ 1946 12 1 3
 0 - 1947 2 23 2
 1 CZ 1979 1 1 0
 1 E
Europe/Riga
 1:36:34 - 1880 1 1 0
 1:36:34 - 1918 4 15 2
 1:36:34 1 1918 9 16 3
 1:36:34 - 1919 4 1 2
 1:36:34 1 1919 5 22 3
 1:36:34 - 1926 5 11 0
 2 - 1940 8 5 0
 3 - 1941 7 1 0
 1 c 1944 10 13 0
 3 R 1989 3 26 2s
 2 1 1989 9 24 2s
 2 LV 1997 1 21 0
 2 E 2000 2 29 0
 2 - 2001 1 2 0
 2 E
Europe/Rome
 0:49:56 - 1866 12 12 0
 0:49:56 - 1893 10 31 23u
 1 I 1943 9 10 0
 1 c 1944 6 4 0
 1 I 1980 1 1 0
 1 E
Europe/Samara
 3:20:20 - 1919 7 1 0u
 3 - 1930 6 21 0
 4 - 1935 1 27 0
 4 R 1989 3 26 2s
 3 R 1991 3 31 2s
 2 R 1991 9 29 2s
 3 - 1991 10 20 3
 4 R 2010 3 28 2s
 3 R 2011 3 27 2s
 4 -
Europe/Saratov
 3:04:18 - 1919 7 1 0u
 3 - 1930 6 21 0
 4 R 1988 3 27 2s
 3 R 1991 3 31 2s
 4 - 1992 3 29 2s
 3 R 2011 3 27 2s
 4 - 2014 10 26 2s
 3 - 2016 12 4 2s
 4 -
Europe/Simferopol
 2:16:24 - 1880 1 1 0
 2:16 - 1924 5 2 0
 2 - 1930 6 21 0
 3 - 1941 11 1 0
 1 c 1944 4 13 0
 3 R 1990 1 1 0
 3 - 1990 7 1 2
 2 - 1992 3 20 0
 2 c 1994 5 1 0
 3 c 1996 3 31 0s
 3 1 1996 10 27 3s
 3 - 1997 3 30 1u
 2 E 2014 3 30 2
 4 - 2014 10 26 2s
 3 -
Europe/Sofia
 1:33:16 - 1880 1 1 0
 1:56:56 - 1894 11 30 0
 2 - 1942 11 2 3
 1 c 1945 1 1 0
 1 - 1945 4 2 3
 2 - 1979 3 31 23
 2 BG 1982 9 26 3
 2 c 1991 1 1 0
 2 e 1997 1 1 0
 2 E
Europe/Tallinn
 1:39 - 1880 1 1 0
 1:39 - 1918 2 1 0
 1 c 1919 7 1 0
 1:39 - 1921 5 1 0
 2 - 1940 8 6 0
 3 - 1941 9 15 0
 1 c 1944 9 22 0
 3 R 1989 3 26 2s
 2 1 1989 9 24 2s
 2 c 1998 9 22 0
 2 E 1999 10 31 4
 2 - 2002 2 21 0
 2 E
Europe/Tirane
 1:19:20 - 1914 1 1 0
 1 - 1940 6 16 0
 1 q 1984 7 1 0
 1 E
Europe/Ulyanovsk
 3:13:36 - 1919 7 1 0u
 3 - 1930 6 21 0
 4 R 1989 3 26 2s
 3 R 1991 3 31 2s
 2 R 1992 1 19 2s
 3 R 2011 3 27 2s
 4 - 2014 10 26 2s
 3 - 2016 3 27 2s
 4 -
Europe/Vienna
 1:05:21 - 1893 4 1 0
 1 c 1920 1 1 0
 1 a 1940 4 1 2s
 1 c 1945 4 2 2s
 1 1 1945 4 12 2s
 1 - 1946 1 1 0
 1 a 1981 1 1 0
 1 E
Europe/Vilnius
 1:41:16 - 1880 1 1 0
 1:24 - 1917 1 1 0
 1:35:36 - 1919 10 10 0
 1 - 1920 7 12 0
 2 - 1920 10 9 0
 1 - 1940 8 3 0
 3 - 1941 6 24 0
 1 c 1944 8 1 0
 3 R 1989 3 26 2s
 2 R 1991 9 29 2s
 2 c 1998 1 1 0
 2 - 1998 3 29 1u
 1 E 1999 10 31 1u
 2 - 2003 1 1 0
 2 E
Europe/Volgograd
 2:57:40 - 1920 1 3 0
 3 - 1930 6 21 0
 4 - 1961 11 11 0
 4 R 1988 3 27 2s
 3 R 1991 3 31 2s
 4 - 1992 3 29 2s
 3 R 2011 3 27 2s
 4 - 2014 10 26 2s
 3 - 2018 10 28 2s
 4 - 2020 12 27 2s
 3 -
Europe/Warsaw
 1:24 - 1880 1 1 0
 1:24 - 1915 8 5 0
 1 c 1918 9 16 3
 2 O 1922 6 1 0
 1 O 1940 6 23 2
 1 c 1944 10 1 0
 1 O 1977 1 1 0
 1 W- 1988 1 1 0
 1 E
Europe/Zurich
 0:34:08 - 1853 7 16 0
 0:29:46 - 1894 6 1 0
 1 CH 1981 1 1 0
 1 E
Indian/Chagos
 4:49:40 - 1907 1 1 0
 5 - 1996 1 1 0
 6 -
Indian/Maldives
 4:54 - 1880 1 1 0
 4:54 - 1960 1 1 0
 5 -
Indian/Mauritius
 3:50 - 1907 1 1 0
 4 MU
Pacific/Apia
 12:33:04 - 1892 7 5 0
 -11:26:56 - 1911 1 1 0
 -11:30 - 1950 1 1 0
 -11 WS 2011 12 29 24
 13 WS
Pacific/Auckland
 11:39:04 - 1868 11 2 0
 11:30 NZ 1946 1 1 0
 12 NZ
Pacific/Bougainville
 10:22:16 - 1880 1 1 0
 9:48:32 - 1895 1 1 0
 10 - 1942 7 1 0
 9 - 1945 8 21 0
 10 - 2014 12 28 2
 11 -
Pacific/Chatham
 12:13:48 - 1868 11 2 0
 12:15 - 1946 1 1 0
 12:45 k
Pacific/Easter
 -7:17:28 - 1890 1 1 0
 -7:17:28 - 1932 9 1 0
 -7 x 1982 3 14 3u
 -6 x
Pacific/Efate
 11:13:16 - 1912 1 13 0
 11 VU
Pacific/Fakaofo
 -11:24:56 - 1901 1 1 0
 -11 - 2011 12 30 0
 13 -
Pacific/Fiji
 11:55:44 - 1915 10 26 0
 12 FJ
Pacific/Galapagos
 -5:58:24 - 1931 1 1 0
 -5 - 1986 1 1 0
 -6 EC
Pacific/Gambier
 -8:59:48 - 1912 10 1 0
 -9 -
Pacific/Guadalcanal
 10:39:48 - 1912 10 1 0
 11 -
Pacific/Guam
 -14:21 - 1844 12 31 0
 9:39 - 1901 1 1 0
 10 - 1941 12 10 0
 9 - 1944 7 31 0
 10 Gu 2000 12 23 0
 10 -
Pacific/Honolulu
 -10:31:26 - 1896 1 13 12
 -10:30 - 1933 4 30 2
 -10:30 1 1933 5 21 12
 -10:30 u 1947 6 8 2
 -10 -
Pacific/Kanton
 0 - 1937 8 31 0
 -12 - 1979 10 1 0
 -11 - 1994 12 31 0
 13 -
Pacific/Kiritimati
 -10:29:20 - 1901 1 1 0
 -10:40 - 1979 10 1 0
 -10 - 1994 12 31 0
 14 -
Pacific/Kosrae
 -13:08:04 - 1844 12 31 0
 10:51:56 - 1901 1 1 0
 11 - 1914 10 1 0
 9 - 1919 2 1 0
 11 - 1937 1 1 0
 10 - 1941 4 1 0
 9 - 1945 8 1 0
 11 - 1969 10 1 0
 12 - 1999 1 1 0
 11 -
Pacific/Kwajalein
 11:09:20 - 1901 1 1 0
 11 - 1937 1 1 0
 10 - 1941 4 1 0
 9 - 1944 2 6 0
 11 - 1969 10 1 0
 -12 - 1993 8 20 24
 12 -
Pacific/Marquesas
 -9:18 - 1912 10 1 0
 -9:30 -
Pacific/Nauru
 11:07:40 - 1921 1 15 0
 11:30 - 1942 8 29 0
 9 - 1945 9 8 0
 11:30 - 1979 2 10 2
 12 -
Pacific/Niue
 -11:19:40 - 1952 10 16 0
 -11:20 - 1964 7 1 0
 -11 -
Pacific/Norfolk
 11:11:52 - 1901 1 1 0
 11:12 - 1951 1 1 0
 11:30 - 1974 10 27 2s
 11:30 1 1975 3 2 2s
 11:30 - 2015 10 4 2s
 11 - 2019 7 1 0
 11 AN
Pacific/Noumea
 11:05:48 - 1912 1 13 0
 11 NC
Pacific/Pago_Pago
 12:37:12 - 1892 7 5 0
 -11:22:48 - 1911 1 1 0
 -11 -
Pacific/Palau
 -15:02:04 - 1844 12 31 0
 8:57:56 - 1901 1 1 0
 9 -
Pacific/Pitcairn
 -8:40:20 - 1901 1 1 0
 -8:30 - 1998 4 27 0
 -8 -
Pacific/Port_Moresby
 9:48:40 - 1880 1 1 0
 9:48:32 - 1895 1 1 0
 10 -
Pacific/Rarotonga
 13:20:56 - 1899 12 26 0
 -10:39:04 - 1952 10 16 0
 -10:30 - 1978 11 12 0
 -10 CK
Pacific/Tahiti
 -9:58:16 - 1912 10 1 0
 -10 -
Pacific/Tarawa
 11:32:04 - 1901 1 1 0
 12 -
Pacific/Tongatapu
 12:19:12 - 1945 9 10 0
 12:20 - 1961 1 1 0
 13 - 1999 1 1 0
 13 TO"

end HouseholdDashboard.Zone
